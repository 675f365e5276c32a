import ExprLexer.Proofs.Grammar
import Mathlib.Data.List.TakeWhile

/-!
The number at the front of a text is the longest one.

* `mantissaSpelling`: the digits and the point in front of an exponent, as `numberSpelling` reads
  them;
* `mantissaSpelling_append`: a mantissa that nothing continues is read exactly;
* `number_numberSpelling`: where a number begins, what is read is a number;
* `longest_numberSpelling`: **and no longer front of the text is one**.
-/

namespace ExprLexer

open CharClass Grammar

/-! ### Digits -/

theorem digits_splitDigits (chars : List Char) : Digits (splitDigits chars).1 :=
  fun _ member => List.mem_takeWhile_imp member

theorem splitDigits_digits_append {digits : List Char} (all : Digits digits) (rest : List Char) :
    splitDigits (digits ++ rest) = (digits ++ (splitDigits rest).1, (splitDigits rest).2) := by
  unfold splitDigits
  rw [List.takeWhile_append_of_pos all, List.dropWhile_append_of_pos all]

theorem splitDigits_cons {c : Char} (noDigit : isDigit c = false) (rest : List Char) :
    splitDigits (c :: rest) = ([], c :: rest) := by
  unfold splitDigits
  rw [List.takeWhile_cons_of_neg (by simp [noDigit]), List.dropWhile_cons_of_neg (by simp [noDigit])]

/-! ### The mantissa -/

/-- The digits and the point at the front, and what follows them. -/
def mantissaSpelling (chars : List Char) : List Char × List Char :=
  ((splitDigits chars).1 ++ (splitPoint (splitDigits chars).2).1,
    (splitPoint (splitDigits chars).2).2)

theorem numberSpelling_eq (chars : List Char) :
    numberSpelling chars
      = ((mantissaSpelling chars).1 ++ (splitExponent (mantissaSpelling chars).2).1,
          (splitExponent (mantissaSpelling chars).2).2) := rfl

theorem splitPoint_point (rest : List Char) :
    splitPoint ('.' :: rest) = ('.' :: (splitDigits rest).1, (splitDigits rest).2) := by
  rw [splitPoint, if_pos rfl]

theorem splitPoint_cons {c : Char} (noPoint : c ≠ '.') (rest : List Char) :
    splitPoint (c :: rest) = ([], c :: rest) := by
  rw [splitPoint, if_neg noPoint]

theorem mantissaSpelling_pointed {digits fraction : List Char} (all : Digits digits)
    (behind : Digits fraction) (rest : List Char) :
    mantissaSpelling (digits ++ '.' :: fraction ++ rest)
      = (digits ++ '.' :: fraction ++ (splitDigits rest).1, (splitDigits rest).2) := by
  have pointed : splitDigits (digits ++ '.' :: fraction ++ rest)
      = (digits, '.' :: (fraction ++ rest)) := by
    rw [List.append_assoc, splitDigits_digits_append all, List.cons_append,
      splitDigits_cons (by decide), List.append_nil]
  rw [mantissaSpelling, pointed, splitPoint_point, splitDigits_digits_append behind,
    List.append_assoc, List.cons_append]

/-- A mantissa at the front is read, whatever follows. -/
theorem mantissa_front {mantissa : List Char} (front : Mantissa mantissa) (rest : List Char) :
    mantissa <+: (mantissaSpelling (mantissa ++ rest)).1 := by
  cases front with
  | whole some all =>
    rw [mantissaSpelling, splitDigits_digits_append all, List.append_assoc]
    exact List.prefix_append _ _
  | pointed some all behind =>
    rw [mantissaSpelling_pointed all behind]
    exact List.prefix_append _ _
  | point some behind =>
    have none : Digits [] := fun _ member => by cases member
    have read := mantissaSpelling_pointed none behind rest
    rw [List.nil_append] at read
    rw [read]
    exact List.prefix_append _ _

/-- A mantissa that neither a digit nor a point continues is read exactly. -/
theorem mantissaSpelling_append {mantissa : List Char} (front : Mantissa mantissa) {c : Char}
    (noDigit : isDigit c = false) (noPoint : c ≠ '.') (rest : List Char) :
    mantissaSpelling (mantissa ++ c :: rest) = (mantissa, c :: rest) := by
  cases front with
  | whole some all =>
    rw [mantissaSpelling, splitDigits_digits_append all, splitDigits_cons noDigit,
      splitPoint_cons noPoint, List.append_nil, List.append_nil]
  | pointed some all behind =>
    rw [mantissaSpelling_pointed all behind, splitDigits_cons noDigit, List.append_nil]
  | point some behind =>
    have none : Digits [] := fun _ member => by cases member
    have read := mantissaSpelling_pointed none behind (c :: rest)
    rwa [List.nil_append, splitDigits_cons noDigit, List.append_nil] at read

/-- Where a number begins, a mantissa is read. -/
theorem mantissa_mantissaSpelling {c : Char} {rest : List Char}
    (starts : Lexeme.startsNumber c rest = true) :
    Mantissa (mantissaSpelling (c :: rest)).1 := by
  have all := digits_splitDigits (c :: rest)
  unfold Lexeme.startsNumber at starts
  rw [Bool.or_eq_true, Bool.and_eq_true, beq_iff_eq] at starts
  rcases starts with digit | ⟨rfl, digit⟩
  · have some : (splitDigits (c :: rest)).1 ≠ [] := by simp [splitDigits, digit]
    rw [mantissaSpelling]
    cases after : (splitDigits (c :: rest)).2 with
    | nil =>
      rw [splitPoint, List.append_nil]
      exact .whole some all
    | cons d more =>
      by_cases point : d = '.'
      · subst point
        rw [splitPoint_point]
        exact .pointed some all (digits_splitDigits more)
      · rw [splitPoint_cons point, List.append_nil]
        exact .whole some all
  · rw [mantissaSpelling, splitDigits_cons (by decide), List.nil_append, splitPoint_point]
    refine .point ?_ (digits_splitDigits rest)
    cases rest with
    | nil => simp at digit
    | cons d more =>
      have first : isDigit d = true := digit
      simp [splitDigits, first]

/-! ### The exponent -/

theorem splitExponent_marker {marker : Char} (marks : isExponentMarker marker = true)
    (rest : List Char) :
    splitExponent (marker :: rest) = (marker :: (splitSigned rest).1, (splitSigned rest).2) := by
  rw [splitExponent, if_pos marks]

theorem exponent_front {exponent : List Char} (back : Exponent exponent) (rest : List Char) :
    exponent <+: (splitExponent (exponent ++ rest)).1 := by
  cases back with
  | @plain marker digits marks all =>
    rw [List.cons_append, splitExponent_marker marks, List.cons_prefix_cons]
    refine ⟨rfl, ?_⟩
    cases digits with
    | nil => exact List.nil_prefix
    | cons d more =>
      have noSign : isSign d = false := isSign_of_digit (all d (by simp))
      rw [List.cons_append, splitSigned, if_neg (by simp [noSign]), ← List.cons_append,
        splitDigits_digits_append all]
      exact List.prefix_append _ _
  | @signed marker sign digits marks signs all =>
    rw [List.cons_append, splitExponent_marker marks, List.cons_prefix_cons, List.cons_append,
      splitSigned, if_pos signs, List.cons_prefix_cons, splitDigits_digits_append all]
    exact ⟨rfl, rfl, List.prefix_append _ _⟩

/-- What is read of an exponent is one, or nothing. -/
theorem exponent_splitExponent (chars : List Char) :
    (splitExponent chars).1 = [] ∨ Exponent (splitExponent chars).1 := by
  cases chars with
  | nil => exact Or.inl rfl
  | cons c rest =>
    rw [splitExponent]
    split
    · next marks =>
      refine Or.inr ?_
      cases rest with
      | nil => exact .plain marks fun _ member => by cases member
      | cons d more =>
        rw [splitSigned]
        split
        · next signs => exact .signed marks signs (digits_splitDigits more)
        · exact .plain marks (digits_splitDigits (d :: more))
    · exact Or.inl rfl

/-! ### The number -/

theorem number_numberSpelling {c : Char} {rest : List Char}
    (starts : Lexeme.startsNumber c rest = true) : Number (numberSpelling (c :: rest)).1 := by
  have front := mantissa_mantissaSpelling starts
  rw [numberSpelling_eq]
  rcases exponent_splitExponent (mantissaSpelling (c :: rest)).2 with none | back
  · rw [none, List.append_nil]
    exact .plain front
  · exact .scaled front back

theorem number_front {number : List Char} (spelled : Number number) (rest : List Char) :
    number <+: (numberSpelling (number ++ rest)).1 := by
  rw [numberSpelling_eq]
  cases spelled with
  | plain front => exact (mantissa_front front rest).trans (List.prefix_append _ _)
  | @scaled mantissa exponent front back =>
    have read : mantissaSpelling (mantissa ++ exponent ++ rest) = (mantissa, exponent ++ rest) := by
      cases back with
      | plain marks all =>
        obtain ⟨noDigit, noPoint⟩ := apart_of_exponentMarker marks
        rw [List.append_assoc]
        exact mantissaSpelling_append front noDigit noPoint _
      | signed marks signs all =>
        obtain ⟨noDigit, noPoint⟩ := apart_of_exponentMarker marks
        rw [List.append_assoc]
        exact mantissaSpelling_append front noDigit noPoint _
    rw [read, List.prefix_append_right_inj]
    exact exponent_front back rest

/-- **The number read at the front of a text is the longest one.** -/
theorem longest_numberSpelling {c : Char} {rest : List Char}
    (starts : Lexeme.startsNumber c rest = true) :
    Longest Number (c :: rest) (numberSpelling (c :: rest)).1 where
  isFront := ⟨_, numberSpelling_append (c :: rest)⟩
  holds := number_numberSpelling starts
  longest other front spelled := by
    obtain ⟨after, whole⟩ := front
    rw [← whole]
    exact (number_front spelled after).length_le

end ExprLexer
