/-!
Blanks, comments, names and quoted texts in a TOML document.

A reader takes what it reads off the front of some characters and returns it with what follows; it
returns nothing where the characters do not begin as they should.

* `skipBlanks`, `skipTrivia`, `lineEnd?`: what stands between keys and values;
* `quoted?`: a text in one of the four kinds of quotes;
* `keyName?`: a name, bare or in quotes.
-/

namespace ExprLexer.Toml

/-- Takes something off the front of some characters. -/
abbrev Reader (α : Type) := List Char → Option (α × List Char)

/-! ### Blanks and comments -/

/-- The blanks within a row. -/
def isBlank (c : Char) : Bool := c == ' ' || c == '\t'

/-- The characters of a comment: no control but the tab. -/
def isCommentChar (c : Char) : Bool := c == '\t' || (0x20 ≤ c.toNat && c.toNat ≠ 0x7f)

/-- Skips the blanks within a row. -/
def skipBlanks (chars : List Char) : List Char := chars.dropWhile isBlank

/-- Skips a newline, with or without a carriage return before it. -/
def newline? : List Char → Option (List Char)
  | '\n' :: rest => some rest
  | '\r' :: '\n' :: rest => some rest
  | _ => none

/-- Skips a comment, if there is one. -/
def skipComment : List Char → List Char
  | '#' :: rest => rest.dropWhile isCommentChar
  | chars => chars

/-- Skips the rest of a row: blanks, a comment, and the newline or the end of the document. -/
def lineEnd? (chars : List Char) : Option (List Char) :=
  match skipComment (skipBlanks chars) with
  | [] => some []
  | after => newline? after

/-- Skips blanks, newlines and comments.  With `inComment`, a comment is being skipped; only a
newline ends it. -/
def skipTrivia (inComment : Bool) : List Char → List Char
  | [] => []
  | '\n' :: rest => skipTrivia false rest
  | '\r' :: '\n' :: rest => skipTrivia false rest
  | c :: rest =>
    if inComment then if isCommentChar c then skipTrivia true rest else c :: rest
    else if isBlank c then skipTrivia false rest
    else if c = '#' then skipTrivia true rest
    else c :: rest

/-! ### Quoted texts -/

/-- The number that a hexadecimal digit writes. -/
def hexValue? (c : Char) : Option Nat :=
  if '0' ≤ c ∧ c ≤ '9' then some (c.toNat - '0'.toNat)
  else if 'a' ≤ c ∧ c ≤ 'f' then some (c.toNat - 'a'.toNat + 10)
  else if 'A' ≤ c ∧ c ≤ 'F' then some (c.toNat - 'A'.toNat + 10)
  else none

/-- The character of some number, if there is one. -/
def charOfCode? (code : Nat) : Option Char :=
  if code.isValidChar then some (Char.ofNat code) else none

/-- The character whose number is written by just so many hexadecimal digits. -/
def hexChar? (width : Nat) (chars : List Char) : Option (Char × List Char) :=
  let digits := chars.take width
  if digits.length = width then
    (digits.foldlM (fun code c => (hexValue? c).map (16 * code + ·)) 0).bind fun code =>
      (charOfCode? code).map fun c => (c, chars.drop width)
  else none

/-- The character that an escape stands for, behind its backslash. -/
def escape? : List Char → Option (Char × List Char)
  | 'b' :: rest => some ('\x08', rest)
  | 't' :: rest => some ('\t', rest)
  | 'n' :: rest => some ('\n', rest)
  | 'f' :: rest => some ('\x0c', rest)
  | 'r' :: rest => some ('\r', rest)
  | '"' :: rest => some ('"', rest)
  | '\\' :: rest => some ('\\', rest)
  | 'u' :: rest => hexChar? 4 rest
  | 'U' :: rest => hexChar? 8 rest
  | _ => none

theorem length_of_hexChar? {width : Nat} {chars rest : List Char} {c : Char}
    (read : hexChar? width chars = some (c, rest)) : rest.length ≤ chars.length := by
  unfold hexChar? at read
  simp only at read
  split at read
  · obtain ⟨code, -, found⟩ := Option.bind_eq_some_iff.mp read
    obtain ⟨d, -, same⟩ := Option.map_eq_some_iff.mp found
    obtain ⟨-, rfl⟩ := Prod.mk.inj same
    rw [List.length_drop]
    omega
  · cases read

/-- An escape takes at least one character. -/
theorem length_of_escape? {chars rest : List Char} {c : Char}
    (read : escape? chars = some (c, rest)) : rest.length < chars.length := by
  unfold escape? at read
  split at read
  case h_8 => exact Nat.lt_succ_of_le (length_of_hexChar? read)
  case h_9 => exact Nat.lt_succ_of_le (length_of_hexChar? read)
  case h_10 => cases read
  all_goals
    obtain ⟨-, rfl⟩ := Prod.mk.inj (Option.some.inj read)
    simp

/-- The characters that stand for themselves between quotes: no control but the tab. -/
def isPlain (c : Char) : Bool := isCommentChar c

/-- Puts a character in front of a text just read. -/
def prepend (c : Char) : Option (List Char × List Char) → Option (List Char × List Char) :=
  Option.map fun (text, rest) => (c :: text, rest)

/-- The text behind a double quote, up to the next one. -/
def basicText? (chars : List Char) : Option (List Char × List Char) :=
  match chars with
  | [] => none
  | c :: rest =>
    if c = '"' then some ([], rest)
    else if c = '\\' then
      match _read : escape? rest with
      | some (escaped, after) => prepend escaped (basicText? after)
      | none => none
    else if isPlain c then prepend c (basicText? rest)
    else none
termination_by chars.length
decreasing_by
  · have shorter := length_of_escape? _read
    simp only [List.length_cons]
    omega
  · simp

/-- The text behind a single quote, up to the next one. -/
def literalText? (chars : List Char) : Option (List Char × List Char) :=
  match chars.dropWhile fun c => isPlain c && c != '\'' with
  | '\'' :: rest => some (chars.takeWhile fun c => isPlain c && c != '\'', rest)
  | _ => none

/-- Skips blanks and newlines. -/
def skipBlankRows : List Char → List Char
  | '\n' :: rest => skipBlankRows rest
  | '\r' :: '\n' :: rest => skipBlankRows rest
  | c :: rest => if isBlank c then skipBlankRows rest else c :: rest
  | [] => []

theorem length_skipBlankRows (chars : List Char) :
    (skipBlankRows chars).length ≤ chars.length := by
  fun_induction skipBlankRows chars with
  | case1 rest ih => exact Nat.le_succ_of_le ih
  | case2 rest ih => exact Nat.le_succ_of_le (Nat.le_succ_of_le ih)
  | case3 c rest _ _ _ ih => exact Nat.le_succ_of_le ih
  | case4 => exact Nat.le_refl _
  | case5 => exact Nat.le_refl _

/-- The newline behind a backslash at the end of a row, with all blanks and newlines after it. -/
def continuation? (chars : List Char) : Option (List Char) :=
  (newline? (skipBlanks chars)).map skipBlankRows

theorem length_of_newline? {chars rest : List Char} (read : newline? chars = some rest) :
    rest.length < chars.length := by
  unfold newline? at read
  split at read
  · obtain rfl := Option.some.inj read
    simp
  · obtain rfl := Option.some.inj read
    simp only [List.length_cons]
    omega
  · cases read

theorem length_of_continuation? {chars rest : List Char}
    (read : continuation? chars = some rest) : rest.length < chars.length := by
  obtain ⟨row, found, rfl⟩ := Option.map_eq_some_iff.mp read
  have shorter := length_of_newline? found
  have blanks : (skipBlanks chars).length ≤ chars.length := (List.dropWhile_sublist _).length_le
  have rows := length_skipBlankRows row
  omega

/-- The text behind three quotes, up to the next three; up to two more quotes before those belong
to the text.  Escapes count behind double quotes only, and newlines are kept. -/
def longText? (quote : Char) (chars : List Char) : Option (List Char × List Char) :=
  match chars with
  | [] => none
  | '\n' :: rest => prepend '\n' (longText? quote rest)
  | '\r' :: '\n' :: rest => prepend '\n' (longText? quote rest)
  | c :: rest =>
    if c = quote then
      let run := ((c :: rest).takeWhile (· == quote)).length
      if 3 ≤ run then
        some (List.replicate (min run 5 - 3) quote, (c :: rest).drop (min run 5))
      else prepend c (longText? quote rest)
    else if c = '\\' ∧ quote = '"' then
      match _skipped : continuation? rest with
      | some after => longText? quote after
      | none =>
        match _read : escape? rest with
        | some (escaped, after) => prepend escaped (longText? quote after)
        | none => none
    else if isPlain c then prepend c (longText? quote rest)
    else none
termination_by chars.length
decreasing_by
  · simp
  · simp only [List.length_cons]
    omega
  · simp
  · have shorter := length_of_continuation? _skipped
    simp only [List.length_cons]
    omega
  · have shorter := length_of_escape? _read
    simp only [List.length_cons]
    omega
  · simp

/-- Skips one newline, if there is one. -/
def skipNewline (chars : List Char) : List Char := (newline? chars).getD chars

/-- A text in quotes: three double quotes, one, three single quotes, or one.  A newline right behind
three quotes does not count. -/
def quoted? : Reader (List Char)
  | '"' :: '"' :: '"' :: rest => longText? '"' (skipNewline rest)
  | '"' :: rest => basicText? rest
  | '\'' :: '\'' :: '\'' :: rest => longText? '\'' (skipNewline rest)
  | '\'' :: rest => literalText? rest
  | _ => none

/-! ### Names -/

/-- The characters of a bare name. -/
def isNameChar (c : Char) : Bool :=
  ('A' ≤ c && c ≤ 'Z') || ('a' ≤ c && c ≤ 'z') || ('0' ≤ c && c ≤ '9') || c == '_' || c == '-'

/-- A name: bare, or in quotes of one row. -/
def keyName? : Reader String
  | '"' :: rest => (basicText? rest).map fun (text, after) => (String.ofList text, after)
  | '\'' :: rest => (literalText? rest).map fun (text, after) => (String.ofList text, after)
  | chars =>
    match chars.takeWhile isNameChar with
    | [] => none
    | name => some (String.ofList name, chars.dropWhile isNameChar)

end ExprLexer.Toml
