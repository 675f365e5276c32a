import ExprLexer.Toml.Text
import Mathlib.Data.List.TakeWhile

/-!
Where a text in quotes ends does not depend on what follows it.

* `Toml.TakesFront`: a reader takes some characters off the front, whatever follows them there;
* `Toml.takesFront_basicText?`, `Toml.takesFront_literalText?`: **so are texts of one row read**;
* `Toml.exists_of_longText?`, `Toml.exists_of_quoted?`: **so is every text in quotes, as long as no further
  quote follows it**: up to five quotes in a row are taken at the end of a long text.
-/

namespace ExprLexer.Toml

/-- A reader takes some characters off the front, whatever follows them there. -/
def TakesFront {α : Type} (reader : Reader α) (chars : List Char) (found : α) (rest : List Char) : Prop :=
  ∃ taken, chars = taken ++ rest ∧ ∀ other, reader (taken ++ other) = some (found, other)

section Texts

variable {chars rest text : List Char} {c : Char}

/-! ### Escapes -/

theorem takesFront_hexChar? {width : Nat} (read : hexChar? width chars = some (c, rest)) :
    TakesFront (hexChar? width) chars c rest := by
  unfold hexChar? at read
  dsimp only at read
  split at read
  · next enough =>
    obtain ⟨code, digits, shown⟩ := Option.bind_eq_some_iff.mp read
    obtain ⟨d, known, same⟩ := Option.map_eq_some_iff.mp shown
    obtain ⟨rfl, rfl⟩ := Prod.mk.inj same
    refine ⟨chars.take width, (List.take_append_drop _ _).symm, fun other => ?_⟩
    have taken : (chars.take width ++ other).take width = chars.take width := by
      rw [List.take_append_of_le_length enough.ge, List.take_of_length_le enough.le]
    have dropped : (chars.take width ++ other).drop width = other := by
      rw [List.drop_append_of_le_length enough.ge, List.drop_eq_nil_of_le enough.le, List.nil_append]
    unfold hexChar?
    dsimp only
    rw [taken, if_pos enough, digits, dropped, Option.bind_some, known]
    rfl
  · cases read

theorem takesFront_escape? (read : escape? chars = some (c, rest)) : TakesFront escape? chars c rest := by
  unfold escape? at read
  split at read
  case h_8 =>
    obtain ⟨taken, rfl, reads⟩ := takesFront_hexChar? read
    exact ⟨'u' :: taken, rfl, reads⟩
  case h_9 =>
    obtain ⟨taken, rfl, reads⟩ := takesFront_hexChar? read
    exact ⟨'U' :: taken, rfl, reads⟩
  case h_10 => cases read
  all_goals
    obtain ⟨rfl, rfl⟩ := Prod.mk.inj (Option.some.inj read)
    exact ⟨[_], rfl, fun _ => rfl⟩

/-! ### Texts of one row -/

theorem exists_of_prepend {found : Option (List Char × List Char)}
    (read : prepend c found = some (text, rest)) : ∃ more, found = some (more, rest) ∧ text = c :: more := by
  obtain ⟨⟨more, final⟩, behind, same⟩ := Option.map_eq_some_iff.mp read
  obtain ⟨rfl, rfl⟩ := Prod.mk.inj same
  exact ⟨more, behind, rfl⟩

theorem basicText?_escape {after : List Char} (read : escape? rest = some (c, after)) :
    basicText? ('\\' :: rest) = prepend c (basicText? after) := by
  rw [basicText?, if_neg (by decide), if_pos rfl]
  split
  · next found =>
    obtain ⟨rfl, rfl⟩ := Prod.mk.inj (Option.some.inj (read.symm.trans found))
    rfl
  · next none => cases read.symm.trans none

theorem takesFront_basicText? (read : basicText? chars = some (text, rest)) :
    TakesFront basicText? chars text rest := by
  fun_induction basicText? chars generalizing text with
  | case1 => cases read
  | case2 later =>
    obtain ⟨rfl, rfl⟩ := Prod.mk.inj (Option.some.inj read)
    exact ⟨['"'], rfl, fun other => by rw [List.singleton_append, basicText?, if_pos rfl]⟩
  | case3 later escaped after found _ ih =>
    obtain ⟨more, behind, rfl⟩ := exists_of_prepend read
    obtain ⟨taken, rfl, reads⟩ := ih behind
    obtain ⟨escape, rfl, escapes⟩ := takesFront_escape? found
    refine ⟨'\\' :: (escape ++ taken), by simp, fun other => ?_⟩
    rw [List.cons_append, List.append_assoc, basicText?_escape (escapes _), reads]
    rfl
  | case4 => cases read
  | case5 d later noQuote noBackslash plain ih =>
    obtain ⟨more, behind, rfl⟩ := exists_of_prepend read
    obtain ⟨taken, rfl, reads⟩ := ih behind
    refine ⟨d :: taken, rfl, fun other => ?_⟩
    rw [List.cons_append, basicText?, if_neg noQuote, if_neg noBackslash, if_pos plain, reads]
    rfl
  | case6 => cases read

theorem takesFront_literalText? (read : literalText? chars = some (text, rest)) :
    TakesFront literalText? chars text rest := by
  unfold literalText? at read
  split at read
  · next later ends =>
    obtain ⟨rfl, rfl⟩ := Prod.mk.inj (Option.some.inj read)
    refine ⟨chars.takeWhile (fun c => isPlain c && c != '\'') ++ ['\''], ?_, fun other => ?_⟩
    · rw [List.append_assoc, List.singleton_append, ← ends, List.takeWhile_append_dropWhile]
    · have plain : ∀ c ∈ chars.takeWhile (fun c => isPlain c && c != '\''),
          (isPlain c && c != '\'') = true :=
        fun _ => List.mem_takeWhile_imp (p := fun c => isPlain c && c != '\'')
      rw [literalText?, List.append_assoc, List.singleton_append, List.dropWhile_append_of_pos plain,
        List.takeWhile_append_of_pos plain, List.dropWhile_cons_of_neg (by decide),
        List.takeWhile_cons_of_neg (by decide), List.append_nil]
      rfl
  · cases read

/-! ### Rows that are skipped within a text -/

/-- Neither blank nor part of a newline. -/
def IsSolid (c : Char) : Prop := isBlank c = false ∧ c ≠ '\n' ∧ c ≠ '\r'

theorem exists_of_newline? (read : newline? chars = some rest) :
    chars = ['\n'] ++ rest ∨ chars = ['\r', '\n'] ++ rest := by
  unfold newline? at read
  split at read
  · obtain rfl := Option.some.inj read
    exact Or.inl rfl
  · obtain rfl := Option.some.inj read
    exact Or.inr rfl
  · cases read

theorem skipBlankRows_of_isSolid (solid : IsSolid c) (rest : List Char) :
    skipBlankRows (c :: rest) = c :: rest := by
  obtain ⟨noBlank, noNewline, noReturn⟩ := solid
  rw [skipBlankRows, if_neg (by simp [noBlank])]
  · exact noNewline
  · exact fun _ same => absurd same noReturn

theorem exists_of_skipBlankRows (chars : List Char) :
    ∃ skipped, chars = skipped ++ skipBlankRows chars
      ∧ ∀ d other, IsSolid d → skipBlankRows (skipped ++ d :: other) = d :: other := by
  fun_induction skipBlankRows chars with
  | case1 later ih =>
    obtain ⟨skipped, whole, skips⟩ := ih
    refine ⟨'\n' :: skipped, congrArg _ whole, fun d other solid => ?_⟩
    rw [List.cons_append, skipBlankRows, skips d other solid]
  | case2 later ih =>
    obtain ⟨skipped, whole, skips⟩ := ih
    refine ⟨'\r' :: '\n' :: skipped, congrArg (fun rest => '\r' :: '\n' :: rest) whole,
      fun d other solid => ?_⟩
    rw [List.cons_append, List.cons_append, skipBlankRows, skips d other solid]
  | case3 c later noNewline noReturn blank ih =>
    obtain ⟨skipped, whole, skips⟩ := ih
    refine ⟨c :: skipped, congrArg _ whole, fun d other solid => ?_⟩
    rw [List.cons_append, skipBlankRows, if_pos blank, skips d other solid]
    · exact noNewline
    · rintro _ rfl
      cases blank
  | case4 => exact ⟨[], rfl, fun _ other solid => skipBlankRows_of_isSolid solid other⟩
  | case5 => exact ⟨[], rfl, fun _ other solid => skipBlankRows_of_isSolid solid other⟩

/-- What is skipped ends at something solid. -/
theorem solid_of_skipBlankRows (skipped : skipBlankRows chars = c :: rest) :
    isBlank c = false ∧ c ≠ '\n' ∧ ∀ later, c = '\r' → rest ≠ '\n' :: later := by
  fun_induction skipBlankRows chars with
  | case1 _ ih => exact ih skipped
  | case2 _ ih => exact ih skipped
  | case3 _ _ _ _ _ ih => exact ih skipped
  | case4 d later noNewline noReturn solid =>
    obtain ⟨rfl, rfl⟩ := List.cons.inj skipped
    exact ⟨Bool.eq_false_iff.mpr solid, noNewline, noReturn⟩
  | case5 => cases skipped

/-- A row that is continued is skipped up to something solid, whatever follows that. -/
theorem exists_of_continuation? (read : continuation? chars = some rest) :
    ∃ skipped, chars = skipped ++ rest
      ∧ ∀ d other, IsSolid d → continuation? (skipped ++ d :: other) = some (d :: other) := by
  obtain ⟨row, newline, rfl⟩ := Option.map_eq_some_iff.mp read
  obtain ⟨skipped, whole, skips⟩ := exists_of_skipBlankRows row
  have blanks : ∀ c ∈ chars.takeWhile isBlank, isBlank c = true := fun _ => List.mem_takeWhile_imp
  have split : chars.takeWhile isBlank ++ skipBlanks chars = chars := List.takeWhile_append_dropWhile
  rcases exists_of_newline? newline with newline | newline
  all_goals
    rw [newline, whole] at split
    refine ⟨_, split.symm.trans (by rw [← List.append_assoc, ← List.append_assoc]), fun d other solid => ?_⟩
    rw [continuation?, skipBlanks, List.append_assoc, List.append_assoc, List.dropWhile_append_of_pos blanks]
    exact congrArg some (skips d other solid)

/-- What is an escape continues no row. -/
theorem continuation?_of_escape? (read : escape? chars = some (c, rest)) : continuation? chars = none := by
  unfold escape? at read
  split at read
  case h_10 => cases read
  all_goals rfl

/-! ### Texts of many rows -/

variable {quote : Char}

theorem longText?_plain (noNewline : c ≠ '\n') (noReturn : c ≠ '\r') (noQuote : c ≠ quote)
    (noEscape : ¬ (c = '\\' ∧ quote = '"')) (plain : isPlain c = true) (rest : List Char) :
    longText? quote (c :: rest) = prepend c (longText? quote rest) := by
  rw [longText?, if_neg noQuote, if_neg noEscape, if_pos plain]
  · exact noNewline
  · exact fun _ same => absurd same noReturn

theorem longText?_continuation {after : List Char} (read : continuation? rest = some after) :
    longText? '"' ('\\' :: rest) = longText? '"' after := by
  rw [longText?, if_neg (by decide), if_pos ⟨rfl, rfl⟩]
  · split
    · next found =>
      obtain rfl := Option.some.inj (read.symm.trans found)
      rfl
    · next none => cases read.symm.trans none
  · decide
  · exact fun _ same => absurd same (by decide)

theorem longText?_escape {after : List Char} (read : escape? rest = some (c, after)) :
    longText? '"' ('\\' :: rest) = prepend c (longText? '"' after) := by
  rw [longText?, if_neg (by decide), if_pos ⟨rfl, rfl⟩]
  · split
    · next found => cases (continuation?_of_escape? read).symm.trans found
    · split
      · next found =>
        obtain ⟨rfl, rfl⟩ := Prod.mk.inj (Option.some.inj (read.symm.trans found))
        rfl
      · next none => cases read.symm.trans none
  · decide
  · exact fun _ same => absurd same (by decide)

/-- The characters that texts in quotes begin with. -/
def isQuote (c : Char) : Bool := c == '"' || c == '\''

theorem apart_of_isQuote (quotes : isQuote c = true) : c ≠ '\n' ∧ c ≠ '\r' ∧ isBlank c = false := by
  rw [isQuote, Bool.or_eq_true, beq_iff_eq, beq_iff_eq] at quotes
  rcases quotes with rfl | rfl <;> decide

/-- Characters are a run of quotes with something behind it. -/
theorem exists_of_run (quote : Char) (chars : List Char) :
    ∃ rest, chars = List.replicate (chars.takeWhile (· == quote)).length quote ++ rest
      ∧ rest.head? ≠ some quote := by
  refine ⟨chars.dropWhile (· == quote), ?_, fun first => ?_⟩
  · have run : chars.takeWhile (· == quote)
        = List.replicate (chars.takeWhile (· == quote)).length quote :=
      List.eq_replicate_iff.mpr ⟨rfl, fun c member =>
        beq_iff_eq.mp (List.mem_takeWhile_imp (p := fun c => c == quote) member)⟩
    rw [← run, List.takeWhile_append_dropWhile]
  · have stop := List.head?_dropWhile_not (fun c => c == quote) chars
    rw [first] at stop
    simp at stop

/-- A run of quotes ends a long text. -/
theorem longText?_run (quotes : isQuote quote = true) {run : Nat} (ends : 3 ≤ run)
    (stop : rest.head? ≠ some quote) :
    longText? quote (List.replicate run quote ++ rest)
      = some (List.replicate (min run 5 - 3) quote, List.replicate (run - min run 5) quote ++ rest) := by
  obtain ⟨noNewline, noReturn, -⟩ := apart_of_isQuote quotes
  have none : rest.takeWhile (· == quote) = [] := by
    cases rest with
    | nil => rfl
    | cons c rest => exact List.takeWhile_cons_of_neg fun same => stop (congrArg some (beq_iff_eq.mp same))
  have length : ((List.replicate run quote ++ rest).takeWhile (· == quote)).length = run := by
    rw [List.takeWhile_append_of_pos (by simp), none, List.append_nil, List.length_replicate]
  obtain ⟨more, rfl⟩ : ∃ more, run = more + 1 := ⟨run - 1, by omega⟩
  have first : List.replicate (more + 1) quote ++ rest = quote :: (List.replicate more quote ++ rest) := rfl
  rw [first] at length ⊢
  rw [longText?, if_pos rfl]
  · dsimp only
    have within : min (more + 1) 5 ≤ (List.replicate (more + 1) quote).length := by
      rw [List.length_replicate]
      exact Nat.min_le_left _ _
    rw [length, if_pos ends, ← first, List.drop_append_of_le_length within, List.drop_replicate]
  · exact noNewline
  · exact fun _ same => absurd same noReturn

/-- Up to five quotes are taken of a run, whatever follows them but one more quote. -/
theorem longText?_run_append (quotes : isQuote quote = true) {run : Nat} (ends : 3 ≤ run)
    (stop : rest.head? ≠ some quote) (other : List Char)
    (follows : other.head? = some quote →
      (List.replicate (run - min run 5) quote ++ rest).head? = some quote) :
    longText? quote (List.replicate (min run 5) quote ++ other)
      = some (List.replicate (min run 5 - 3) quote, other) := by
  obtain ⟨final, whole, stops⟩ := exists_of_run quote other
  generalize (other.takeWhile (· == quote)).length = count at whole
  subst whole
  have taken : count = 0 ∨ 5 ≤ run := by
    cases count with
    | zero => exact Or.inl rfl
    | succ count =>
      refine Or.inr (Nat.le_of_not_lt fun few => stop ?_)
      have none : run - min run 5 = 0 := by omega
      rw [none] at follows
      exact follows rfl
  have more : min run 5 + count - min (min run 5 + count) 5 = count := by omega
  have same : min (min run 5 + count) 5 = min run 5 := by omega
  rw [← List.append_assoc, List.replicate_append_replicate, longText?_run quotes (by omega) stops, more, same]

/-- What is taken at the end of a long text. -/
theorem taken_of_run (quotes : isQuote quote = true) {run : Nat}
    (whole : chars = List.replicate run quote ++ rest) (ends : 3 ≤ run) (stop : rest.head? ≠ some quote) :
    chars = List.replicate (min run 5) quote ++ chars.drop (min run 5)
      ∧ 3 ≤ (List.replicate (min run 5) quote).length
      ∧ ∀ other, (other.head? = some quote → (chars.drop (min run 5)).head? = some quote) →
        longText? quote (List.replicate (min run 5) quote ++ other)
          = some (List.replicate (min run 5 - 3) quote, other) := by
  have dropped : chars.drop (min run 5) = List.replicate (run - min run 5) quote ++ rest := by
    rw [whole, List.drop_append_of_le_length (by rw [List.length_replicate]; exact Nat.min_le_left _ _),
      List.drop_replicate]
  rw [dropped]
  refine ⟨?_, ?_, fun other follows => longText?_run_append quotes ends stop other follows⟩
  · rw [← List.append_assoc, List.replicate_append_replicate, Nat.add_sub_cancel' (Nat.min_le_left _ _)]
    exact whole
  · rw [List.length_replicate]
    omega

/-- Fewer than three quotes belong to a long text, if three more characters show that they are few. -/
theorem longText?_few (quotes : isQuote quote = true) {taken : List Char} (long : 3 ≤ taken.length)
    (few : ¬ 3 ≤ ((quote :: (taken ++ rest)).takeWhile (· == quote)).length) (other : List Char) :
    longText? quote (quote :: (taken ++ other)) = prepend quote (longText? quote (taken ++ other)) := by
  obtain ⟨noNewline, noReturn, -⟩ := apart_of_isQuote quotes
  have run (final : List Char) : ((quote :: (taken ++ final)).takeWhile (· == quote)).length
      = if (taken.takeWhile (· == quote)).length = taken.length
        then taken.length + (final.takeWhile (· == quote)).length + 1
        else (taken.takeWhile (· == quote)).length + 1 := by
    rw [List.takeWhile_cons_of_pos (by simp), List.length_cons, List.takeWhile_append]
    split <;> simp
  have same : ((quote :: (taken ++ other)).takeWhile (· == quote)).length
      = ((quote :: (taken ++ rest)).takeWhile (· == quote)).length := by
    rw [run] at few ⊢
    rw [run]
    split at few
    · omega
    · next apart => rw [if_neg apart, if_neg apart]
  rw [longText?, if_pos rfl]
  · dsimp only
    rw [same, if_neg few]
  · exact noNewline
  · exact fun _ same => absurd same noReturn

/-- What a text goes on with behind a row that is continued is solid. -/
theorem solid_of_continuation? {skipped : List Char} (skips : continuation? chars = some (c :: rest))
    (read : longText? '"' (c :: rest) = some (text, skipped)) : IsSolid c := by
  obtain ⟨row, -, same⟩ := Option.map_eq_some_iff.mp skips
  obtain ⟨noBlank, noNewline, noReturn⟩ := solid_of_skipBlankRows same
  refine ⟨noBlank, noNewline, ?_⟩
  rintro rfl
  rw [longText?, if_neg (by decide), if_neg (by decide), if_neg (by decide)] at read
  · cases read
  · exact noNewline
  · exact noReturn

/-- **Long texts are read whatever follows them, but for one more quote.**  At least three characters are
taken, so a run of fewer quotes within the text ends before what follows. -/
theorem exists_of_longText? (quotes : isQuote quote = true)
    (read : longText? quote chars = some (text, rest)) :
    ∃ taken, chars = taken ++ rest ∧ 3 ≤ taken.length
      ∧ ∀ other, (other.head? = some quote → rest.head? = some quote) →
        longText? quote (taken ++ other) = some (text, other) := by
  fun_induction longText? quote chars generalizing text with
  | case1 => cases read
  | case2 later ih =>
    obtain ⟨more, behind, rfl⟩ := exists_of_prepend read
    obtain ⟨taken, rfl, long, reads⟩ := ih behind
    refine ⟨'\n' :: taken, rfl, Nat.le_succ_of_le long, fun other follows => ?_⟩
    rw [List.cons_append, longText?, reads other follows]
    rfl
  | case3 later ih =>
    obtain ⟨more, behind, rfl⟩ := exists_of_prepend read
    obtain ⟨taken, rfl, long, reads⟩ := ih behind
    refine ⟨'\r' :: '\n' :: taken, rfl, Nat.le_succ_of_le (Nat.le_succ_of_le long), fun other follows => ?_⟩
    rw [List.cons_append, List.cons_append, longText?, reads other follows]
    rfl
  | case4 later _ _ run =>
    rename_i ends
    obtain ⟨rfl, rfl⟩ := Prod.mk.inj (Option.some.inj read)
    obtain ⟨final, whole, stop⟩ := exists_of_run quote (quote :: later)
    exact ⟨_, taken_of_run quotes whole ends stop⟩
  | case5 later noNewline noReturn run =>
    rename_i few ih
    obtain ⟨more, behind, rfl⟩ := exists_of_prepend read
    obtain ⟨taken, rfl, long, reads⟩ := ih behind
    refine ⟨quote :: taken, rfl, Nat.le_succ_of_le long, fun other follows => ?_⟩
    rw [List.cons_append, longText?_few quotes long few, reads other follows]
    rfl
  | case6 c later noNewline noReturn noQuote escape after skips ih =>
    obtain ⟨rfl, rfl⟩ := escape
    obtain ⟨taken, rfl, long, reads⟩ := ih read
    obtain ⟨d, taken, rfl⟩ := List.exists_cons_of_ne_nil (l := taken) (by rintro rfl; cases long)
    have solid : IsSolid d := solid_of_continuation? skips read
    obtain ⟨skipped, rfl, continues⟩ := exists_of_continuation? skips
    have length : 3 ≤ ('\\' :: (skipped ++ d :: taken)).length := by
      rw [List.length_cons, List.length_append]
      omega
    refine ⟨'\\' :: (skipped ++ d :: taken), by simp, length, fun other follows => ?_⟩
    rw [List.cons_append, List.append_assoc, List.cons_append,
      longText?_continuation (continues d _ solid)]
    exact reads other follows
  | case7 c later noNewline noReturn noQuote escape skips escaped after found ih =>
    obtain ⟨rfl, rfl⟩ := escape
    obtain ⟨more, behind, rfl⟩ := exists_of_prepend read
    obtain ⟨taken, rfl, long, reads⟩ := ih behind
    obtain ⟨front, rfl, escapes⟩ := takesFront_escape? found
    have length : 3 ≤ ('\\' :: (front ++ taken)).length := by
      rw [List.length_cons, List.length_append]
      omega
    refine ⟨'\\' :: (front ++ taken), by simp, length, fun other follows => ?_⟩
    rw [List.cons_append, List.append_assoc, longText?_escape (escapes _), reads other follows]
    rfl
  | case8 => cases read
  | case9 c later noNewline noReturn noQuote noEscape plain ih =>
    obtain ⟨more, behind, rfl⟩ := exists_of_prepend read
    obtain ⟨taken, rfl, long, reads⟩ := ih behind
    refine ⟨c :: taken, rfl, Nat.le_succ_of_le long, fun other follows => ?_⟩
    rw [List.cons_append, longText?_plain noNewline _ noQuote noEscape plain, reads other follows]
    · rfl
    · rintro rfl
      cases plain
  | case10 => cases read

/-! ### All texts in quotes -/

/-- Whether a newline is skipped in front of a long text does not depend on what follows the text. -/
theorem exists_of_skipNewline {taken : List Char} (long : 3 ≤ taken.length)
    (skipped : skipNewline chars = taken ++ rest) :
    ∃ newline, chars = newline ++ taken ++ rest
      ∧ ∀ other, skipNewline (newline ++ taken ++ other) = taken ++ other := by
  unfold skipNewline at skipped ⊢
  cases read : newline? chars with
  | some row =>
    rw [read] at skipped
    obtain rfl : row = taken ++ rest := skipped
    rcases exists_of_newline? read with rfl | rfl
    · exact ⟨['\n'], by simp, fun _ => rfl⟩
    · exact ⟨['\r', '\n'], by simp, fun _ => rfl⟩
  | none =>
    rw [read] at skipped
    obtain rfl : chars = taken ++ rest := skipped
    refine ⟨[], rfl, fun other => ?_⟩
    obtain ⟨c, d, later, rfl⟩ : ∃ c d later, taken = c :: d :: later := by
      match taken, long with
      | c :: d :: later, _ => exact ⟨c, d, later, rfl⟩
    have noNewline : newline? (c :: d :: later ++ other) = none := by
      unfold newline? at read ⊢
      split at read
      · cases read
      · cases read
      · next noNewline noReturn =>
        split
        · next same =>
          obtain ⟨rfl, -⟩ := List.cons.inj same
          exact absurd rfl (noNewline _)
        · next same =>
          obtain ⟨rfl, second⟩ := List.cons.inj same
          obtain ⟨rfl, -⟩ := List.cons.inj second
          exact absurd rfl (noReturn _)
        · rfl
    rw [List.nil_append]
    exact congrArg (Option.getD · _) noNewline

/-- A long text with the newline in front of it that does not count. -/
theorem exists_of_longText?_skipNewline (quotes : isQuote quote = true)
    (read : longText? quote (skipNewline chars) = some (text, rest)) :
    ∃ taken, chars = taken ++ rest
      ∧ ∀ other, (other.head? = some quote → rest.head? = some quote) →
        longText? quote (skipNewline (taken ++ other)) = some (text, other) := by
  generalize start : skipNewline chars = after at read
  obtain ⟨taken, rfl, long, reads⟩ := exists_of_longText? quotes read
  obtain ⟨newline, rfl, skips⟩ := exists_of_skipNewline long start
  refine ⟨newline ++ taken, rfl, fun other follows => ?_⟩
  rw [skips]
  exact reads other follows

/-- Two quotes stand in front only if they did so before. -/
theorem ne_quotes_append {taken other : List Char} (some : taken ≠ [])
    (apart : ∀ later, taken ++ rest ≠ quote :: quote :: later)
    (follows : other.head? = .some quote → rest.head? = .some quote) (later : List Char) :
    taken ++ other ≠ quote :: quote :: later := by
  match taken, some with
  | [c], _ =>
    intro same
    obtain ⟨rfl, rfl⟩ := List.cons.inj same
    obtain ⟨final, rfl⟩ := List.head?_eq_some_iff.mp (follows rfl)
    exact apart final rfl
  | c :: d :: more, _ =>
    intro same
    obtain ⟨rfl, same⟩ := List.cons.inj same
    obtain ⟨rfl, -⟩ := List.cons.inj same
    exact apart (more ++ rest) rfl

/-- **Every text in quotes is read as it is whatever follows it, but for one more quote.** -/
theorem exists_of_quoted? (read : quoted? chars = some (text, rest)) :
    ∃ taken, chars = taken ++ rest ∧ (∃ quote ∈ taken.head?, isQuote quote = true)
      ∧ ∀ other, (∀ quote, isQuote quote = true → other.head? = some quote → rest.head? = some quote) →
        quoted? (taken ++ other) = some (text, other) := by
  unfold quoted? at read
  split at read
  · next later =>
    obtain ⟨taken, rfl, reads⟩ := exists_of_longText?_skipNewline rfl read
    exact ⟨'"' :: '"' :: '"' :: taken, rfl, ⟨'"', rfl, rfl⟩,
      fun other follows => reads other (follows '"' rfl)⟩
  · next later apart =>
    obtain ⟨taken, rfl, reads⟩ := takesFront_basicText? read
    have some : taken ≠ [] := by
      rintro rfl
      have none := reads []
      rw [List.append_nil, basicText?] at none
      cases none
    refine ⟨'"' :: taken, rfl, ⟨'"', rfl, rfl⟩, fun other follows => ?_⟩
    rw [List.cons_append, quoted?]
    · exact reads other
    · exact ne_quotes_append some apart (follows '"' rfl)
  · next later =>
    obtain ⟨taken, rfl, reads⟩ := exists_of_longText?_skipNewline rfl read
    exact ⟨'\'' :: '\'' :: '\'' :: taken, rfl, ⟨'\'', rfl, rfl⟩,
      fun other follows => reads other (follows '\'' rfl)⟩
  · next later apart =>
    obtain ⟨taken, rfl, reads⟩ := takesFront_literalText? read
    have some : taken ≠ [] := by
      rintro rfl
      cases reads []
    refine ⟨'\'' :: taken, rfl, ⟨'\'', rfl, rfl⟩, fun other follows => ?_⟩
    rw [List.cons_append, quoted?]
    · exact reads other
    · exact ne_quotes_append some apart (follows '\'' rfl)
  · cases read

end Texts

end ExprLexer.Toml
