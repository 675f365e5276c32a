/-!
Paths of files, kept as written: names between slashes.

* `Path.ofString`, `Path.text`: a path from its text and back;
* `Path.names`: the names between the slashes;
* `Path.parent?`: the path of the directory that holds it, which is a front part of the path;
* `Path.weight_parent?`: fewer characters that are no slash are left in it;
* `Path.join`: a path below another.
-/

namespace ExprLexer

/-- A path, as written. -/
structure Path where
  chars : List Char
deriving DecidableEq

namespace Path

/-- A path from its text. -/
def ofString (text : String) : Path := ⟨text.toList⟩

/-- The text of a path. -/
def text (path : Path) : String := String.ofList path.chars

/-- Whether the path names nothing at all. -/
def isEmpty (path : Path) : Bool := path.chars.isEmpty

/-- Whether the path begins with a slash. -/
def absolute (path : Path) : Bool := path.chars.head? == some '/'

/-- Whether the path ends with a slash. -/
def trailing (path : Path) : Bool := path.chars.getLast? == some '/'

/-- The pieces between slashes, some of which may be empty. -/
def pieces : List Char → List (List Char)
  | [] => [[]]
  | c :: rest =>
    match pieces rest with
    | [] => []
    | piece :: later => if c = '/' then [] :: piece :: later else (c :: piece) :: later

/-- The names between slashes; none is empty. -/
def names (path : Path) : List String :=
  ((pieces path.chars).filter (!·.isEmpty)).map String.ofList

/-- A path below another: each name follows a slash. -/
def join (path : Path) (names : List String) : Path :=
  ⟨names.foldl (fun front name =>
    front ++ (if front.isEmpty || front.getLast? == some '/' then [] else ['/']) ++ name.toList)
    path.chars⟩

/-! ### The directory above -/

/-- Drops what names nothing from the end of a path, given last character first: slashes, and
single dots that a slash precedes. -/
def trimEnd : List Char → List Char
  | '/' :: before => trimEnd before
  | '.' :: '/' :: before => trimEnd before
  | reversed => reversed

/-- The path of the directory that holds it: the last name is dropped, with what names nothing on
either side of it.  The top has none, nor has the empty path. -/
def parent? (path : Path) : Option Path :=
  match trimEnd path.chars.reverse with
  | [] => none
  | reversed =>
    match trimEnd (reversed.dropWhile (· != '/')) with
    | [] => some ⟨if path.absolute then ['/'] else []⟩
    | above => some ⟨above.reverse⟩

/-- How many characters of a path are no slash. -/
def weight (path : Path) : Nat := path.chars.countP (· != '/')

theorem countP_trimEnd_le (reversed : List Char) :
    (trimEnd reversed).countP (· != '/') ≤ reversed.countP (· != '/') := by
  fun_induction trimEnd reversed with
  | case1 before ih => simpa using ih
  | case2 before ih =>
    rw [List.countP_cons, List.countP_cons]
    omega
  | case3 => exact Nat.le_refl _

/-- What is left after trimming does not begin with a slash. -/
theorem ne_slash_of_trimEnd {reversed later : List Char} {c : Char}
    (trimmed : trimEnd reversed = c :: later) : c ≠ '/' := by
  fun_induction trimEnd reversed with
  | case1 before ih => exact ih trimmed
  | case2 before ih => exact ih trimmed
  | case3 reversed noSlash _ =>
    rintro rfl
    exact noSlash later trimmed

/-- Fewer characters that are no slash are left in the parent. -/
theorem weight_parent? {path parent : Path} (above : path.parent? = some parent) :
    parent.weight < path.weight := by
  unfold parent? at above
  split at above
  · cases above
  · next reversed some =>
    cases trimmed : trimEnd path.chars.reverse with
    | nil => exact absurd trimmed some
    | cons c later =>
      have shrinks := countP_trimEnd_le path.chars.reverse
      have counted : (c :: later).countP (· != '/') = later.countP (· != '/') + 1 :=
        List.countP_cons_of_pos (by simpa using ne_slash_of_trimEnd trimmed)
      have dropped : ((c :: later).dropWhile (· != '/')).countP (· != '/') ≤
          later.countP (· != '/') := by
        rw [List.dropWhile_cons_of_pos (by simpa using ne_slash_of_trimEnd trimmed)]
        exact (List.dropWhile_sublist _).countP_le
      rw [List.countP_reverse, trimmed, counted] at shrinks
      rw [trimmed] at above
      have cut := countP_trimEnd_le ((c :: later).dropWhile (· != '/'))
      split at above
      · obtain rfl := Option.some.inj above
        have none : weight ⟨if path.absolute then ['/'] else []⟩ = 0 := by
          unfold weight
          split <;> rfl
        rw [none, weight]
        omega
      · obtain rfl := Option.some.inj above
        rw [weight, weight, List.countP_reverse]
        omega

end Path

end ExprLexer
