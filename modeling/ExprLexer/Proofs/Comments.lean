import ExprLexer.Proofs.TextEnds
import ExprLexer.Toml.Document

/-!
Documents without their comments.

* `Toml.withoutComments`: what is left of a document without its comments;
* `Toml.Start`: the ways in which a document may begin;
* `Toml.takeWhile_withoutComments`: runs of characters with no part in comments stay as they are;
* `Toml.skipTrivia_withoutComments`, `Toml.lineEnd?_withoutComments`: **what stands between values and behind
  rows is skipped alike with and without comments**.
-/

namespace ExprLexer.Toml

theorem length_of_quoted? {chars rest text : List Char} (read : quoted? chars = some (text, rest)) :
    rest.length < chars.length := by
  obtain ⟨taken, rfl, ⟨quote, first, -⟩, -⟩ := exists_of_quoted? read
  have some : taken ≠ [] := by
    rintro rfl
    cases first
  rw [List.length_append]
  exact Nat.lt_add_of_pos_left (List.length_pos_iff.mpr some)

/-- A document without its comments.  Texts in quotes stay whole.  From quotes that do not close, or a
control character that is none of a newline, everything stays: no document has them. -/
def withoutComments (chars : List Char) : List Char :=
  match chars with
  | [] => []
  | '\n' :: rest => '\n' :: withoutComments rest
  | '\r' :: '\n' :: rest => '\r' :: '\n' :: withoutComments rest
  | c :: rest =>
    if c = '#' then withoutComments (rest.dropWhile isCommentChar)
    else if isQuote c then
      match _read : quoted? (c :: rest) with
      | some (_, after) => (c :: rest).take ((c :: rest).length - after.length) ++ withoutComments after
      | none => c :: rest
    else if isCommentChar c then c :: withoutComments rest
    else c :: rest
termination_by chars.length
decreasing_by
  · simp
  · simp only [List.length_cons]
    omega
  · exact Nat.lt_succ_of_le (List.dropWhile_sublist _).length_le
  · exact length_of_quoted? _read
  · simp

/-- The characters with no part in newlines, comments or quotes. -/
structure IsOrdinary (c : Char) : Prop where
  shown : isCommentChar c = true
  noHash : c ≠ '#'
  noQuote : isQuote c = false

instance (c : Char) : Decidable (IsOrdinary c) :=
  decidable_of_iff (isCommentChar c = true ∧ c ≠ '#' ∧ isQuote c = false)
    ⟨fun ⟨shown, noHash, noQuote⟩ => ⟨shown, noHash, noQuote⟩,
      fun ⟨shown, noHash, noQuote⟩ => ⟨shown, noHash, noQuote⟩⟩

/-- The characters that stand nowhere outside quotes. -/
structure IsStray (c : Char) (rest : List Char) : Prop where
  hidden : isCommentChar c = false
  noNewline : c ≠ '\n'
  noReturn : ∀ later, c = '\r' → rest ≠ '\n' :: later

section Fronts

variable {c : Char} {chars rest taken text : List Char}

theorem IsOrdinary.apart (ordinary : IsOrdinary c) : c ≠ '\n' ∧ c ≠ '\r' := by
  constructor
  all_goals
    rintro rfl
    cases ordinary.shown

theorem withoutComments_nil : withoutComments [] = [] := by
  rw [withoutComments]

theorem withoutComments_ordinary (ordinary : IsOrdinary c) (rest : List Char) :
    withoutComments (c :: rest) = c :: withoutComments rest := by
  obtain ⟨noNewline, noReturn⟩ := ordinary.apart
  obtain ⟨shown, noHash, noQuote⟩ := ordinary
  rw [withoutComments, if_neg noHash, if_neg (by simp [noQuote]), if_pos shown]
  · exact noNewline
  · exact fun _ same => absurd same noReturn

theorem withoutComments_stray (stray : IsStray c rest) : withoutComments (c :: rest) = c :: rest := by
  obtain ⟨hidden, noNewline, noReturn⟩ := stray
  have noHash : c ≠ '#' := by
    rintro rfl
    cases hidden
  have noQuote : ¬ isQuote c = true := by
    rw [isQuote, Bool.or_eq_true, beq_iff_eq, beq_iff_eq]
    rintro (rfl | rfl) <;> cases hidden
  rw [withoutComments, if_neg noHash, if_neg noQuote, if_neg (by simp [hidden])]
  · exact noNewline
  · exact noReturn

theorem withoutComments_comment (rest : List Char) :
    withoutComments ('#' :: rest) = withoutComments (rest.dropWhile isCommentChar) := by
  rw [withoutComments, if_pos rfl]
  · decide
  · nofun

theorem withoutComments_broken (quotes : isQuote c = true) (broken : quoted? (c :: rest) = none) :
    withoutComments (c :: rest) = c :: rest := by
  obtain ⟨noNewline, noReturn, -⟩ := apart_of_isQuote quotes
  have noHash : c ≠ '#' := by
    rintro rfl
    cases quotes
  rw [withoutComments, if_neg noHash, if_pos quotes]
  · split
    · next found => cases broken.symm.trans found
    · rfl
  · exact noNewline
  · exact fun _ same => absurd same noReturn

theorem withoutComments_quoted (quotes : ∃ quote ∈ taken.head?, isQuote quote = true)
    (read : quoted? (taken ++ rest) = some (text, rest)) :
    withoutComments (taken ++ rest) = taken ++ withoutComments rest := by
  obtain ⟨c, first, quotes⟩ := quotes
  obtain ⟨more, rfl⟩ := List.head?_eq_some_iff.mp first
  obtain ⟨noNewline, noReturn, -⟩ := apart_of_isQuote quotes
  have noHash : c ≠ '#' := by
    rintro rfl
    cases quotes
  rw [List.cons_append] at read ⊢
  rw [withoutComments, if_neg noHash, if_pos quotes]
  · split
    · next found =>
      obtain ⟨-, rfl⟩ := Prod.mk.inj (Option.some.inj (read.symm.trans found))
      have whole : c :: (more ++ rest) = (c :: more) ++ rest := rfl
      rw [whole, List.length_append, Nat.add_sub_cancel, List.take_left]
    · next none => cases read.symm.trans none
  · exact noNewline
  · exact fun _ same => absurd same noReturn

/-- The ways in which a document may begin. -/
inductive Start : List Char → Prop
  | nil : Start []
  | newline (rest : List Char) : Start ('\n' :: rest)
  | carriage (rest : List Char) : Start ('\r' :: '\n' :: rest)
  | comment (rest : List Char) : Start ('#' :: rest)
  | quote {c : Char} (quotes : isQuote c = true) (rest : List Char) : Start (c :: rest)
  | ordinary {c : Char} (ordinary : IsOrdinary c) (rest : List Char) : Start (c :: rest)
  | stray {c : Char} {rest : List Char} (stray : IsStray c rest) : Start (c :: rest)

theorem start (chars : List Char) : Start chars := by
  cases chars with
  | nil => exact .nil
  | cons c rest =>
    by_cases newline : c = '\n'
    · exact newline ▸ .newline rest
    by_cases hash : c = '#'
    · exact hash ▸ .comment rest
    by_cases quotes : isQuote c = true
    · exact .quote quotes rest
    cases shown : isCommentChar c with
    | true => exact .ordinary ⟨shown, hash, Bool.eq_false_iff.mpr quotes⟩ rest
    | false =>
      by_cases carriage : ∃ later, c = '\r' ∧ rest = '\n' :: later
      · obtain ⟨later, rfl, rfl⟩ := carriage
        exact .carriage later
      · exact .stray ⟨shown, newline, fun later same next => carriage ⟨later, same, next⟩⟩

theorem isCommentChar_of_isQuote (quotes : isQuote c = true) : isCommentChar c = true := by
  rw [isQuote, Bool.or_eq_true, beq_iff_eq, beq_iff_eq] at quotes
  rcases quotes with rfl | rfl <;> rfl

theorem exists_of_any_head? {p : Char → Bool} (front : chars.head?.any p = true) :
    ∃ c rest, chars = c :: rest ∧ p c = true := by
  cases chars with
  | nil => cases front
  | cons c rest => exact ⟨c, rest, rfl, front⟩

/-- But for a comment, the first character stays. -/
theorem head?_withoutComments (noHash : chars.head? ≠ some '#') :
    (withoutComments chars).head? = chars.head? := by
  cases start chars with
  | nil => rw [withoutComments]
  | newline rest =>
    rw [withoutComments]
    rfl
  | carriage rest =>
    rw [withoutComments]
    rfl
  | comment rest => exact absurd rfl noHash
  | @quote c quotes rest =>
    cases read : quoted? (c :: rest) with
    | none => rw [withoutComments_broken quotes read]
    | some found =>
      obtain ⟨text, after⟩ := found
      obtain ⟨taken, whole, first, -⟩ := exists_of_quoted? read
      rw [whole] at read ⊢
      rw [withoutComments_quoted first read]
      obtain ⟨quote, first, -⟩ := first
      obtain ⟨more, rfl⟩ := List.head?_eq_some_iff.mp first
      rfl
  | ordinary ordinary rest =>
    rw [withoutComments_ordinary ordinary]
    rfl
  | stray stray => rw [withoutComments_stray stray]

/-- Without comments, a document begins with a character of some kind only if it does so with them. -/
theorem any_head?_withoutComments {p : Char → Bool} (shown : ∀ c, p c = true → isCommentChar c = true)
    (noHash : p '#' = false) (chars : List Char) :
    (withoutComments chars).head?.any p = chars.head?.any p := by
  by_cases hash : chars.head? = some '#'
  · obtain ⟨rest, rfl⟩ := List.head?_eq_some_iff.mp hash
    have stop := List.head?_dropWhile_not isCommentChar rest
    generalize ends : rest.dropWhile isCommentChar = final at stop
    have noComment : final.head? ≠ some '#' := by
      intro first
      rw [first] at stop
      cases stop
    rw [withoutComments_comment, ends, head?_withoutComments noComment]
    cases first : final.head? with
    | none => exact noHash.symm
    | some c =>
      rw [first] at stop
      have none : p c = false := Bool.eq_false_iff.mpr fun holds => by cases (shown c holds).symm.trans stop
      exact none.trans noHash.symm
  · rw [head?_withoutComments hash]

theorem any_isQuote_withoutComments (chars : List Char) :
    (withoutComments chars).head?.any isQuote = chars.head?.any isQuote :=
  any_head?_withoutComments (fun _ quotes => isCommentChar_of_isQuote quotes) rfl chars

/-- No quote comes to the front. -/
theorem head?_of_withoutComments (quotes : isQuote c = true)
    (first : (withoutComments chars).head? = some c) : chars.head? = some c := by
  have noHash : ('#' == c) = false := by
    refine beq_eq_false_iff_ne.mpr ?_
    rintro rfl
    cases quotes
  have alike := any_head?_withoutComments (p := (· == c))
    (fun d same => beq_iff_eq.mp same ▸ isCommentChar_of_isQuote quotes) noHash chars
  rw [first] at alike
  obtain ⟨d, rest, rfl, same⟩ := exists_of_any_head? (alike.symm.trans (beq_self_eq_true c))
  exact congrArg some (beq_iff_eq.mp same)

/-! ### Characters of one kind -/

/-- A kind of characters that stand for themselves outside quotes and comments. -/
def AllOrdinary (p : Char → Bool) : Prop := ∀ c, p c = true → IsOrdinary c

theorem allOrdinary_isBlank : AllOrdinary isBlank := by
  intro c blank
  rw [isBlank, Bool.or_eq_true, beq_iff_eq, beq_iff_eq] at blank
  rcases blank with rfl | rfl
  all_goals exact ⟨rfl, by decide, rfl⟩

theorem AllOrdinary.any_head? {p : Char → Bool} (all : AllOrdinary p) (chars : List Char) :
    (withoutComments chars).head?.any p = chars.head?.any p :=
  any_head?_withoutComments (fun c holds => (all c holds).shown)
    (Bool.eq_false_iff.mpr fun holds => (all _ holds).noHash rfl) chars

theorem takeWhile_of_head? {p : Char → Bool} (stop : chars.head?.any p = false) :
    chars.takeWhile p = [] ∧ chars.dropWhile p = chars := by
  cases chars with
  | nil => exact ⟨rfl, rfl⟩
  | cons c rest =>
    have none : ¬ p c = true := by simpa using stop
    exact ⟨List.takeWhile_cons_of_neg none, List.dropWhile_cons_of_neg none⟩

/-- A run of such characters is the same without comments. -/
theorem takeWhile_withoutComments {p : Char → Bool} (all : AllOrdinary p) (chars : List Char) :
    (withoutComments chars).takeWhile p = chars.takeWhile p
      ∧ (withoutComments chars).dropWhile p = withoutComments (chars.dropWhile p) := by
  induction chars with
  | nil =>
    rw [withoutComments]
    exact ⟨rfl, withoutComments_nil.symm⟩
  | cons c rest ih =>
    by_cases holds : p c = true
    · rw [withoutComments_ordinary (all c holds), List.takeWhile_cons_of_pos holds,
        List.takeWhile_cons_of_pos holds, List.dropWhile_cons_of_pos holds, List.dropWhile_cons_of_pos holds]
      exact ⟨congrArg _ ih.1, ih.2⟩
    · have stop : (c :: rest).head?.any p = false := Bool.eq_false_iff.mpr holds
      have stop' := (all.any_head? (c :: rest)).trans stop
      rw [(takeWhile_of_head? stop).1, (takeWhile_of_head? stop).2]
      exact takeWhile_of_head? stop'

theorem length_skipBlanks (chars : List Char) : (skipBlanks chars).length ≤ chars.length :=
  (List.dropWhile_sublist _).length_le

theorem skipBlanks_withoutComments (chars : List Char) :
    skipBlanks (withoutComments chars) = withoutComments (skipBlanks chars) :=
  (takeWhile_withoutComments allOrdinary_isBlank chars).2

/-! ### Between keys and values -/

theorem skipTrivia_solid (noBlank : isBlank c = false) (noHash : c ≠ '#') (noNewline : c ≠ '\n')
    (noReturn : ∀ later, c = '\r' → rest ≠ '\n' :: later) : skipTrivia false (c :: rest) = c :: rest := by
  rw [skipTrivia, if_neg nofun, if_neg (by simp [noBlank]), if_neg noHash]
  · exact noNewline
  · exact noReturn

theorem skipTrivia_stray (stray : IsStray c rest) : skipTrivia false (c :: rest) = c :: rest := by
  obtain ⟨hidden, noNewline, noReturn⟩ := stray
  have noBlank : isBlank c = false :=
    Bool.eq_false_iff.mpr fun blank => by cases (allOrdinary_isBlank c blank).shown.symm.trans hidden
  refine skipTrivia_solid noBlank ?_ noNewline noReturn
  rintro rfl
  cases hidden

/-- A comment is skipped to the end of its row. -/
theorem skipTrivia_true (rest : List Char) :
    skipTrivia true rest = skipTrivia false (rest.dropWhile isCommentChar) := by
  induction rest with
  | nil => rw [List.dropWhile_nil, skipTrivia, skipTrivia]
  | cons c rest ih =>
    by_cases shown : isCommentChar c = true
    · rw [List.dropWhile_cons_of_pos shown, ← ih, skipTrivia, if_pos rfl, if_pos shown]
      · rintro rfl
        cases shown
      · rintro _ rfl
        cases shown
    · rw [List.dropWhile_cons_of_neg shown]
      cases start (c :: rest) with
      | newline rest => rw [skipTrivia, skipTrivia]
      | carriage rest => rw [skipTrivia, skipTrivia]
      | comment rest => exact absurd rfl shown
      | quote quotes => exact absurd (isCommentChar_of_isQuote quotes) shown
      | ordinary ordinary => exact absurd ordinary.shown shown
      | stray stray =>
        rw [skipTrivia_stray stray, skipTrivia, if_pos rfl, if_neg shown]
        · exact stray.noNewline
        · exact stray.noReturn

theorem exists_withoutComments_quote (quotes : isQuote c = true) (rest : List Char) :
    ∃ more, withoutComments (c :: rest) = c :: more := by
  have noHash : (c :: rest).head? ≠ some '#' := by
    intro same
    obtain rfl := Option.some.inj same
    cases quotes
  exact List.head?_eq_some_iff.mp (head?_withoutComments noHash)

theorem skipTrivia_withoutComments (chars : List Char) :
    skipTrivia false (withoutComments chars) = withoutComments (skipTrivia false chars) := by
  induction size : chars.length using Nat.strong_induction_on generalizing chars with
  | _ size ih =>
    subst size
    cases start chars with
    | nil => rw [withoutComments_nil, skipTrivia, withoutComments_nil]
    | newline rest =>
      rw [withoutComments, skipTrivia, skipTrivia]
      exact ih _ (by simp) rest rfl
    | carriage rest =>
      rw [withoutComments, skipTrivia, skipTrivia]
      exact ih _ (Nat.lt_succ_of_lt (Nat.lt_succ_self _)) rest rfl
    | comment rest =>
      have shorter : (rest.dropWhile isCommentChar).length < ('#' :: rest).length :=
        Nat.lt_succ_of_le (List.dropWhile_sublist _).length_le
      rw [withoutComments_comment, ih _ shorter _ rfl, ← skipTrivia_true, skipTrivia, if_neg nofun,
        if_neg (by decide), if_pos rfl]
      · decide
      · nofun
    | @quote c quotes rest =>
      obtain ⟨more, front⟩ := exists_withoutComments_quote quotes rest
      obtain ⟨noNewline, noReturn, noBlank⟩ := apart_of_isQuote quotes
      have noHash : c ≠ '#' := by
        rintro rfl
        cases quotes
      rw [skipTrivia_solid noBlank noHash noNewline fun _ same => absurd same noReturn, front,
        skipTrivia_solid noBlank noHash noNewline fun _ same => absurd same noReturn]
    | @ordinary c ordinary rest =>
      obtain ⟨noNewline, noReturn⟩ := ordinary.apart
      rw [withoutComments_ordinary ordinary]
      cases blank : isBlank c with
      | true =>
        have skips (rest : List Char) : skipTrivia false (c :: rest) = skipTrivia false rest := by
          rw [skipTrivia, if_neg nofun, if_pos blank]
          · exact noNewline
          · exact fun _ same => absurd same noReturn
        rw [skips, skips]
        exact ih _ (by simp) rest rfl
      | false =>
        rw [skipTrivia_solid blank ordinary.noHash noNewline fun _ same => absurd same noReturn,
          skipTrivia_solid blank ordinary.noHash noNewline fun _ same => absurd same noReturn,
          withoutComments_ordinary ordinary]
    | stray stray => rw [withoutComments_stray stray, skipTrivia_stray stray, withoutComments_stray stray]

/-- What follows a character, if it is the first. -/
def behind? (c : Char) : List Char → Option (List Char)
  | [] => none
  | d :: rest => if d = c then some rest else none

theorem behind?_of_ne (apart : ∀ rest, chars ≠ c :: rest) : behind? c chars = none := by
  cases chars with
  | nil => rfl
  | cons d rest => exact if_neg fun same => apart rest (congrArg (· :: rest) same)

theorem behind?_withoutComments (ordinary : IsOrdinary c) (chars : List Char) :
    behind? c (withoutComments chars) = (behind? c chars).map withoutComments := by
  have all : AllOrdinary (· == c) := fun d same => beq_iff_eq.mp same ▸ ordinary
  by_cases first : ∃ rest, chars = c :: rest
  · obtain ⟨rest, rfl⟩ := first
    rw [withoutComments_ordinary ordinary, behind?, behind?, if_pos rfl, if_pos rfl, Option.map_some]
  · have apart' : ∀ rest, withoutComments chars ≠ c :: rest := by
      intro rest same
      have alike := all.any_head? chars
      rw [same] at alike
      obtain ⟨d, more, rfl, equal⟩ := exists_of_any_head? (alike.symm.trans (beq_self_eq_true c))
      exact first ⟨more, congrArg (· :: more) (beq_iff_eq.mp equal)⟩
    rw [behind?_of_ne fun rest same => first ⟨rest, same⟩, behind?_of_ne apart', Option.map_none]

theorem length_behind? (found : behind? c chars = some rest) : rest.length < chars.length := by
  cases chars with
  | nil => cases found
  | cons d more =>
    rw [behind?] at found
    split at found
    · obtain rfl := Option.some.inj found
      simp
    · cases found

theorem newline?_eq_none (noNewline : c ≠ '\n') (noReturn : ∀ later, c = '\r' → rest ≠ '\n' :: later) :
    newline? (c :: rest) = none := by
  rw [newline?]
  · rintro _ same
    exact noNewline (List.cons.inj same).1
  · rintro _ same
    exact noReturn _ (List.cons.inj same).1 (List.cons.inj same).2

theorem newline?_withoutComments (noHash : chars.head? ≠ some '#') :
    newline? (withoutComments chars) = (newline? chars).map withoutComments := by
  cases start chars with
  | nil =>
    rw [withoutComments]
    rfl
  | newline rest =>
    rw [withoutComments]
    rfl
  | carriage rest =>
    rw [withoutComments]
    rfl
  | comment rest => exact absurd rfl noHash
  | quote quotes rest =>
    obtain ⟨more, front⟩ := exists_withoutComments_quote quotes rest
    obtain ⟨noNewline, noReturn, -⟩ := apart_of_isQuote quotes
    rw [front, newline?_eq_none noNewline fun _ same => absurd same noReturn,
      newline?_eq_none noNewline fun _ same => absurd same noReturn, Option.map_none]
  | ordinary ordinary rest =>
    obtain ⟨noNewline, noReturn⟩ := ordinary.apart
    rw [withoutComments_ordinary ordinary, newline?_eq_none noNewline fun _ same => absurd same noReturn,
      newline?_eq_none noNewline fun _ same => absurd same noReturn, Option.map_none]
  | stray stray =>
    rw [withoutComments_stray stray, newline?_eq_none stray.noNewline stray.noReturn, Option.map_none]

theorem skipComment_of_head? (noHash : chars.head? ≠ some '#') : skipComment chars = chars := by
  unfold skipComment
  split
  · exact absurd rfl noHash
  · rfl

theorem lineEnd?_withoutComments (chars : List Char) :
    lineEnd? (withoutComments chars) = (lineEnd? chars).map withoutComments := by
  have skipped (chars : List Char) : skipComment (withoutComments chars) = withoutComments (skipComment chars)
      ∧ (skipComment chars).head? ≠ some '#' := by
    by_cases hash : chars.head? = some '#'
    · obtain ⟨rest, rfl⟩ := List.head?_eq_some_iff.mp hash
      have stop := List.head?_dropWhile_not isCommentChar rest
      have ends : skipComment ('#' :: rest) = rest.dropWhile isCommentChar := rfl
      have noHash : (rest.dropWhile isCommentChar).head? ≠ some '#' := by
        intro first
        rw [first] at stop
        cases stop
      rw [withoutComments_comment, ends, skipComment_of_head? (head?_withoutComments noHash ▸ noHash)]
      exact ⟨rfl, noHash⟩
    · rw [skipComment_of_head? hash, skipComment_of_head? (head?_withoutComments hash ▸ hash)]
      exact ⟨rfl, hash⟩
  rw [lineEnd?, lineEnd?, skipBlanks_withoutComments]
  obtain ⟨same, noHash⟩ := skipped (skipBlanks chars)
  rw [same]
  generalize skipComment (skipBlanks chars) = final at noHash
  cases final with
  | nil =>
    rw [withoutComments_nil]
    exact congrArg some withoutComments_nil.symm
  | cons c rest =>
    have front := head?_withoutComments noHash
    obtain ⟨more, front⟩ := List.head?_eq_some_iff.mp front
    dsimp only
    rw [← newline?_withoutComments noHash, front]

end Fronts

end ExprLexer.Toml
