import ExprLexer.Proofs.LongestLexeme

/-!
A fault is found exactly where a text is faulty.

* `Grammar.Faulty`: what can be wrong with a text where a token begins;
* `faulty_of_read`: **a fault that is found is there**;
* `read_of_faulty`: **a fault that is there is found**;
* `Grammar.Faulty.unique`: a text is faulty in at most one way.

A string is faulty if its quote does not come again, a number if a point or an exponent follows its
longest spelling.  No branch of `Lexeme.read` gives `invalidIdentifierStart`: an identifier is read
only where one begins.
-/

namespace ExprLexer

open CharClass Grammar

namespace Grammar

/-- What is wrong with a text where a token begins, and its characters up to the one that shows
it. -/
inductive Faulty : List Char → LexError.Cause → List Char → Prop
  | unterminated {quote : Char} {content : List Char} (quotes : isQuote quote = true)
      (never : quote ∉ content) :
      Faulty (quote :: content) (.unterminatedString quote) (quote :: content)
  | point {number rest : List Char} (longest : Longest Number (number ++ '.' :: rest) number) :
      Faulty (number ++ '.' :: rest) .unexpectedDecimalSeparator (number ++ ['.'])
  | marker {number rest : List Char} {c : Char} (marks : isExponentMarker c = true)
      (longest : Longest Number (number ++ c :: rest) number) :
      Faulty (number ++ c :: rest) .unexpectedExponentMarker (number ++ [c])

end Grammar

/-- A number fails at a point or an exponent right behind its longest spelling. -/
theorem faulty_of_readNumber {c : Char} {rest : List Char} {fault : Fault}
    (starts : Lexeme.startsNumber c rest = true)
    (failed : Lexeme.readNumber (c :: rest) = .error fault) :
    Faulty (c :: rest) fault.cause fault.read := by
  have longest := longest_numberSpelling starts
  have whole := numberSpelling_append (c :: rest)
  unfold Lexeme.readNumber at failed
  revert failed longest whole
  generalize numberSpelling (c :: rest) = parts
  obtain ⟨spelling, behind⟩ := parts
  intro failed longest whole
  cases behind with
  | nil => cases failed
  | cons d after =>
    have whole : spelling ++ d :: after = c :: rest := whole
    rw [← whole] at longest ⊢
    simp only at failed
    split at failed
    · next point =>
      subst point
      obtain rfl := Except.error.inj failed
      exact .point longest
    split at failed
    · next marks =>
      obtain rfl := Except.error.inj failed
      exact .marker marks longest
    · cases failed

/-- **A fault that is found is there.** -/
theorem faulty_of_read {c : Char} {rest : List Char} {fault : Fault}
    (failed : Lexeme.read c rest = .error fault) : Faulty (c :: rest) fault.cause fault.read := by
  unfold Lexeme.read at failed
  split at failed
  · cases failed
  split at failed
  · next starts => exact faulty_of_readNumber starts failed
  split at failed
  · next quotes =>
    unfold Lexeme.readString at failed
    split at failed
    · next none =>
      obtain rfl := Except.error.inj failed
      refine .unterminated quotes fun member => ?_
      simpa using List.dropWhile_eq_nil_iff.mp none c member
    · cases failed
  split at failed
  · next starts =>
    rw [Lexeme.readIdentifier, if_pos starts] at failed
    cases failed
  split at failed <;> cases failed

/-- A text whose longest number is followed by a point or an exponent is read as far as that. -/
theorem read_of_longestNumber {c d : Char} {rest number after : List Char}
    (whole : number ++ d :: after = c :: rest)
    (longest : Longest Number (number ++ d :: after) number) :
    Lexeme.read c rest = Lexeme.readNumber (c :: rest)
      ∧ numberSpelling (c :: rest) = (number, d :: after) := by
  rw [whole] at longest
  have starts := longest.holds.startsNumber longest.isFront
  have spelling := (longest_numberSpelling starts).unique longest
  constructor
  · rw [Lexeme.read, if_neg (by simp [isEndOfInput_of_startsNumber starts]), if_pos starts]
  · have parts := (numberSpelling_append (c :: rest)).trans whole.symm
    rw [spelling] at parts
    exact Prod.ext spelling (List.append_cancel_left parts)

/-- **A fault that is there is found.** -/
theorem read_of_faulty {c : Char} {rest shown : List Char} {cause : LexError.Cause}
    (faulty : Faulty (c :: rest) cause shown) :
    ∃ after, Lexeme.read c rest = .error ⟨cause, shown, after⟩ := by
  generalize text : c :: rest = chars at faulty
  cases faulty with
  | @unterminated quote content quotes never =>
    obtain ⟨rfl, rfl⟩ := List.cons.inj text
    have none : rest.dropWhile (· != c) = [] :=
      List.dropWhile_eq_nil_iff.mpr (all_ne_of_not_mem never)
    refine ⟨[], ?_⟩
    rw [Lexeme.read, if_neg (by simp [(apart_of_quote quotes).1]),
      if_neg (by simp [startsNumber_of_quote quotes rest]), if_pos quotes, Lexeme.readString, none]
  | @point number after longest =>
    obtain ⟨read, spelling⟩ := read_of_longestNumber text.symm longest
    refine ⟨after, ?_⟩
    rw [read, Lexeme.readNumber, spelling]
    rfl
  | @marker number after d marks longest =>
    obtain ⟨read, spelling⟩ := read_of_longestNumber text.symm longest
    have noPoint := (apart_of_exponentMarker marks).2
    refine ⟨after, ?_⟩
    rw [read, Lexeme.readNumber, spelling]
    simp only [noPoint, marks, if_false, if_true]

namespace Grammar

theorem Faulty.ne_nil {chars shown : List Char} {cause : LexError.Cause}
    (faulty : Faulty chars cause shown) : chars ≠ [] := by
  cases faulty with
  | unterminated quotes never => exact List.cons_ne_nil _ _
  | point longest => exact List.append_ne_nil_of_right_ne_nil _ (List.cons_ne_nil _ _)
  | marker marks longest => exact List.append_ne_nil_of_right_ne_nil _ (List.cons_ne_nil _ _)

theorem Faulty.unique {chars shown shown' : List Char} {cause cause' : LexError.Cause}
    (one : Faulty chars cause shown) (other : Faulty chars cause' shown') :
    cause = cause' ∧ shown = shown' := by
  cases chars with
  | nil => exact absurd rfl one.ne_nil
  | cons c rest =>
    obtain ⟨after, read⟩ := read_of_faulty one
    obtain ⟨after', read'⟩ := read_of_faulty other
    rw [read] at read'
    cases read'
    exact ⟨rfl, rfl⟩

theorem Faulty.goesOn {c : Char} {rest shown : List Char} {cause : LexError.Cause}
    (faulty : Faulty (c :: rest) cause shown) : isEndOfInput c = false := by
  obtain ⟨after, read⟩ := read_of_faulty faulty
  cases ends : isEndOfInput c with
  | false => rfl
  | true =>
    rw [Lexeme.read, if_pos ends] at read
    cases read

end Grammar

end ExprLexer
