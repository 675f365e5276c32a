import ExprLexer.Proofs.RoundTrip

/-!
The value of a number token.

Numbers are spelled by one grammar and read by another, and the two differ in one thing: the lexer takes
an exponent marker without digits, as in `1e` and `1e+`, and a numeral must complete its exponent.

* `Grammar.DigitNext`: a digit comes next, maybe behind a sign;
* `Grammar.Unfinished`: an exponent marker stands in some characters that no digit follows;
* `Numeral.magnitude?_append`: a mantissa is read in front of any exponent;
* `Numeral.ofChars?_number`: **a number of the lexer is a numeral unless its exponent is unfinished**;
* `value?_eq_none_iff`: **so a number token lacks a value exactly if its exponent is unfinished**, and a
  value is a number without a sign.
-/

namespace ExprLexer

open CharClass

namespace Grammar

/-! ### Unfinished exponents -/

/-- A digit comes next, maybe behind a sign. -/
def DigitNext (chars : List Char) : Prop :=
  chars.head?.any isDigit = true
    ∨ chars.head?.any isSign = true ∧ chars.tail.head?.any isDigit = true

/-- An exponent marker stands there that no digit follows, with or without a sign in between. -/
def Unfinished (chars : List Char) : Prop :=
  ∃ front marker back, chars = front ++ marker :: back ∧ isExponentMarker marker = true
    ∧ ¬ DigitNext back

theorem isExponentMarker_of_digit {c : Char} (digit : isDigit c = true) :
    isExponentMarker c = false := by
  by_contra marks
  rw [Bool.not_eq_false] at marks
  exact absurd digit (by simp [(apart_of_exponentMarker marks).1])

theorem isExponentMarker_of_sign {c : Char} (signs : isSign c = true) :
    isExponentMarker c = false := by
  unfold isSign at signs
  rw [Bool.or_eq_true, beq_iff_eq, beq_iff_eq] at signs
  rcases signs with rfl | rfl
  · decide
  · decide

/-- A mantissa has digits and a point, so no exponent marker. -/
theorem Mantissa.unmarked {mantissa : List Char} (front : Mantissa mantissa) :
    ∀ c ∈ mantissa, isExponentMarker c = false := by
  have plain {digits : List Char} (all : Digits digits) :
      ∀ c ∈ digits, isExponentMarker c = false :=
    fun c member => isExponentMarker_of_digit (all c member)
  have point : isExponentMarker '.' = false := by decide
  cases front with
  | whole some all => exact plain all
  | pointed some all behind =>
    exact List.forall_mem_append.mpr ⟨plain all, List.forall_mem_cons.mpr ⟨point, plain behind⟩⟩
  | point some behind => exact List.forall_mem_cons.mpr ⟨point, plain behind⟩

theorem not_unfinished_of_unmarked {chars : List Char}
    (unmarked : ∀ c ∈ chars, isExponentMarker c = false) : ¬ Unfinished chars := by
  rintro ⟨front, marker, back, rfl, marks, -⟩
  rw [unmarked marker (by simp)] at marks
  cases marks

/-- The only marker decides. -/
theorem unfinished_append_iff {front back : List Char} {marker : Char}
    (before : ∀ c ∈ front, isExponentMarker c = false) (marks : isExponentMarker marker = true)
    (behind : ∀ c ∈ back, isExponentMarker c = false) :
    Unfinished (front ++ marker :: back) ↔ ¬ DigitNext back := by
  refine ⟨?_, fun none => ⟨front, marker, back, rfl, marks, none⟩⟩
  rintro ⟨front', marker', back', same, marks', none⟩
  rcases List.append_eq_append_iff.mp same with ⟨between, split, rest⟩ | ⟨between, split, rest⟩
  · cases between with
    | nil =>
      obtain ⟨-, rfl⟩ := List.cons.inj rest
      exact none
    | cons c between =>
      -- the other marker stands behind this one
      obtain ⟨-, rfl⟩ := List.cons.inj rest
      rw [behind marker' (by simp)] at marks'
      cases marks'
  · cases between with
    | nil =>
      obtain ⟨-, rfl⟩ := List.cons.inj rest
      exact none
    | cons c between =>
      obtain ⟨rfl, -⟩ := List.cons.inj rest
      rw [before marker' (by simp [split])] at marks'
      cases marks'

end Grammar

open Grammar

/-! ### Reading a number -/

namespace Numeral

theorem splitSign_of_isSign {c : Char} (noSign : isSign c = false) (rest : List Char) :
    splitSign (c :: rest) = (false, c :: rest) := by
  unfold splitSign
  split
  · next same =>
    obtain ⟨rfl, -⟩ := List.cons.inj same
    cases noSign
  · next same =>
    obtain ⟨rfl, -⟩ := List.cons.inj same
    cases noSign
  · rfl

theorem splitSign_digits {digits : List Char} (all : Digits digits) :
    splitSign digits = (false, digits) := by
  cases digits with
  | nil => rfl
  | cons c rest => exact splitSign_of_isSign (isSign_of_digit (all c List.mem_cons_self)) rest

theorem digits?_isSome {digits : List Char} (all : Digits digits) :
    (digits? digits).isSome = true ↔ digits ≠ [] := by
  have every : digits.all isDigit = true := List.all_eq_true.mpr all
  rw [digits?, every]
  cases digits with
  | nil => simp
  | cons c rest => simp

/-- An exponent is read if its digits are. -/
theorem exponent?_cons_isSome {marker : Char} {signed digits : List Char} {negative : Bool}
    (marks : isExponentMarker marker = true) (split : splitSign signed = (negative, digits)) :
    (exponent? (marker :: signed)).isSome = (digits? digits).isSome := by
  rw [exponent?, if_pos marks, split]
  dsimp only
  cases digits? digits with
  | none => rfl
  | some size => rfl

/-- An exponent of the lexer is read exactly if it is finished. -/
theorem exponent?_isSome {exponent : List Char} (back : Exponent exponent) :
    ∃ marker tail, exponent = marker :: tail ∧ isExponentMarker marker = true
      ∧ (∀ c ∈ tail, isExponentMarker c = false)
      ∧ ((exponent? exponent).isSome = true ↔ DigitNext tail) := by
  cases back with
  | @plain marker digits marks all =>
    refine ⟨marker, digits, rfl, marks, fun c member => isExponentMarker_of_digit (all c member), ?_⟩
    rw [exponent?_cons_isSome marks (splitSign_digits all), digits?_isSome all]
    cases digits with
    | nil => simp [DigitNext]
    | cons d more => simp [DigitNext, all d List.mem_cons_self]
  | @signed marker sign digits marks signs all =>
    refine ⟨marker, sign :: digits, rfl, marks, ?_, ?_⟩
    · exact List.forall_mem_cons.mpr ⟨isExponentMarker_of_sign signs,
        fun c member => isExponentMarker_of_digit (all c member)⟩
    · have split : ∃ negative, splitSign (sign :: digits) = (negative, digits) := by
        unfold isSign at signs
        rw [Bool.or_eq_true, beq_iff_eq, beq_iff_eq] at signs
        rcases signs with rfl | rfl
        · exact ⟨false, rfl⟩
        · exact ⟨true, rfl⟩
      obtain ⟨negative, split⟩ := split
      have noDigit : isDigit sign = false := by
        by_contra digit
        rw [Bool.not_eq_false] at digit
        exact absurd signs (by simp [isSign_of_digit digit])
      rw [exponent?_cons_isSome marks split, digits?_isSome all]
      cases digits with
      | nil => simp [DigitNext, noDigit]
      | cons d more => simp [DigitNext, noDigit, signs, all d List.mem_cons_self]

/-- The digits in front of anything else are split off whole. -/
theorem splitDigits_append {digits tail : List Char} (all : Digits digits)
    (apart : ∀ c ∈ tail.head?, isDigit c = false) : splitDigits (digits ++ tail) = (digits, tail) := by
  rw [splitDigits_digits_append all]
  cases tail with
  | nil => rw [splitDigits, List.takeWhile_nil, List.dropWhile_nil, List.append_nil]
  | cons c rest => rw [splitDigits_cons (apart c rfl), List.append_nil]

/-- A mantissa is read in front of any exponent, and the exponent decides whether there is a number. -/
theorem magnitude?_append {mantissa tail : List Char} (front : Mantissa mantissa)
    (apart : ∀ c ∈ tail.head?, isDigit c = false ∧ c ≠ '.') :
    ∃ digits scale, magnitude? (mantissa ++ tail)
      = (exponent? tail).map fun exponent => (digits, exponent - scale) := by
  have noDigit : ∀ c ∈ tail.head?, isDigit c = false := fun c first => (apart c first).1
  have noPoint : splitFraction tail = ([], tail) := by
    unfold splitFraction
    split
    · exact absurd rfl (apart '.' rfl).2
    · rfl
  have unfolded (chars : List Char) : magnitude? chars
      = if (splitDigits chars).1.isEmpty && (splitFraction (splitDigits chars).2).1.isEmpty then none
        else (exponent? (splitFraction (splitDigits chars).2).2).map fun (exponent : Int) =>
          (natOfDigits ((splitDigits chars).1 ++ (splitFraction (splitDigits chars).2).1),
            exponent - ((splitFraction (splitDigits chars).2).1.length : Int)) := rfl
  have pointed {digits fraction : List Char} (all : Digits digits) (behind : Digits fraction) :
      splitDigits (digits ++ '.' :: fraction ++ tail) = (digits, '.' :: (fraction ++ tail))
        ∧ splitFraction ('.' :: (fraction ++ tail)) = (fraction, tail) := by
    refine ⟨?_, splitDigits_append behind noDigit⟩
    rw [List.append_assoc]
    exact splitDigits_append all fun c first => by
      obtain rfl := Option.some.inj first
      decide
  cases front with
  | whole some all =>
    refine ⟨natOfDigits (mantissa ++ []), 0, ?_⟩
    rw [unfolded, splitDigits_append all noDigit]
    dsimp only
    rw [noPoint, List.isEmpty_eq_false_iff.mpr some]
    rfl
  | @pointed digits fraction some all behind =>
    refine ⟨natOfDigits (digits ++ fraction), fraction.length, ?_⟩
    rw [unfolded, (pointed all behind).1]
    dsimp only
    rw [(pointed all behind).2, List.isEmpty_eq_false_iff.mpr some]
    rfl
  | @point fraction some behind =>
    refine ⟨natOfDigits ([] ++ fraction), fraction.length, ?_⟩
    obtain ⟨split, rest⟩ := pointed (List.forall_mem_nil _) behind
    rw [List.nil_append] at split
    rw [unfolded, split]
    dsimp only
    rw [rest, List.isEmpty_eq_false_iff.mpr some]
    rfl

theorem toLower_of_isDigit {c : Char} (digit : isDigit c = true) : c.toLower = c := by
  unfold isDigit at digit
  rw [Bool.and_eq_true, decide_eq_true_eq, decide_eq_true_eq] at digit
  have upper : c.toNat ≤ 57 := digit.2
  unfold Char.toLower
  refine dif_neg fun letter => ?_
  have lower : 65 ≤ c.toNat := letter.1
  omega

/-- What begins as a number does is no word that begins otherwise. -/
theorem isWord_of_starts {word : String} {c : Char} {rest : List Char}
    (starts : isDigit c = true ∨ c = '.')
    (letter : word.toList.head?.any (fun first => !isDigit first && first != '.') = true) :
    isWord word (c :: rest) = false := by
  have same : c.toLower = c := by
    rcases starts with digit | rfl
    · exact toLower_of_isDigit digit
    · rfl
  rw [isWord, List.map_cons, same, beq_eq_false_iff_ne]
  intro spelled
  rw [← spelled] at letter
  rcases starts with digit | rfl
  · simp [digit] at letter
  · simp at letter

/-- What begins as a number does has no sign, and is no word. -/
theorem ofChars?_of_starts {c : Char} {rest : List Char} (starts : isDigit c = true ∨ c = '.') :
    ofChars? (c :: rest)
      = (magnitude? (c :: rest)).map fun (digits, exponent) => .decimal false digits exponent := by
  have noSign : isSign c = false := by
    rcases starts with digit | rfl
    · exact isSign_of_digit digit
    · decide
  rw [ofChars?, splitSign_of_isSign noSign]
  dsimp only
  rw [isWord_of_starts starts (by decide), isWord_of_starts starts (by decide),
    isWord_of_starts starts (by decide)]
  rfl

/-- **A number of the lexer is a numeral unless its exponent is unfinished**, and then it has no
sign. -/
theorem ofChars?_number {number : List Char} (spelled : Number number) :
    (Unfinished number ∧ ofChars? number = none)
      ∨ (¬ Unfinished number
        ∧ ∃ digits exponent, ofChars? number = some (.decimal false digits exponent)) := by
  obtain ⟨c, rest, first, starts⟩ := spelled.head
  have begins : isDigit c = true ∨ c = '.' := starts.imp_right And.left
  have read : ofChars? number
      = (magnitude? number).map fun (digits, exponent) => .decimal false digits exponent := by
    rw [first]
    exact ofChars?_of_starts begins
  rw [read]
  cases spelled with
  | plain front =>
    have apart : ∀ c ∈ ([] : List Char).head?, isDigit c = false ∧ c ≠ '.' := nofun
    obtain ⟨digits, scale, magnitude⟩ := magnitude?_append front apart
    rw [List.append_nil] at magnitude
    rw [magnitude]
    exact Or.inr ⟨not_unfinished_of_unmarked front.unmarked, digits, _, rfl⟩
  | @scaled mantissa exponent front back =>
    obtain ⟨marker, tail, rfl, marks, behind, finished⟩ := exponent?_isSome back
    have apart : ∀ c ∈ (marker :: tail).head?, isDigit c = false ∧ c ≠ '.' := by
      rintro d head
      obtain rfl := Option.some.inj head
      exact apart_of_exponentMarker marks
    obtain ⟨digits, scale, magnitude⟩ := magnitude?_append front apart
    rw [unfinished_append_iff front.unmarked marks behind, magnitude, ← finished]
    cases exponent? (marker :: tail) with
    | none => exact Or.inl ⟨nofun, rfl⟩
    | some size => exact Or.inr ⟨fun none => none rfl, digits, _, rfl⟩

/-- A decimal without a sign has a value without a sign, and that is a number. -/
theorem value_decimal_regular (digits : Nat) (exponent : Int) :
    (value (.decimal false digits exponent)).isNaN = false
      ∧ (value (.decimal false digits exponent)).isNegative = false :=
  Binary64.ofBits_regular (Binary64.decimalBits_le digits exponent)

end Numeral

/-- **A number token lacks a value exactly if its exponent is unfinished.**  Any other has a value, which
is a number and has no sign. -/
theorem value?_eq_none_iff {source : String} {tokens : List Token} {token : Token} {text : String}
    (done : tokenize source = .ok tokens) (read : token ∈ tokens)
    (number : token.kind = .numberLiteral text) :
    (token.value? = none ↔ Unfinished text.toList)
      ∧ (¬ Unfinished text.toList → ∃ value, token.value? = some value ∧ value.isNaN = false
        ∧ value.isNegative = false) := by
  obtain ⟨earlier, final, rfl, ends, wellFormed⟩ := wellFormed_of_lexing (lexing_tokenize source) _ done
  have spelled : Number text.toList := by
    rcases List.mem_append.mp read with member | member
    · have spelled := wellFormed token member
      rw [number] at spelled
      exact spelled
    · obtain rfl := List.mem_singleton.mp member
      rw [Token.isEnd, number] at ends
      cases ends
  have value : token.value? = (Numeral.ofChars? text.toList).map Numeral.value := by
    rw [Token.value?, number]
    rfl
  rw [value]
  rcases Numeral.ofChars?_number spelled with ⟨unfinished, none⟩ | ⟨finished, digits, exponent, some⟩
  · rw [none]
    exact ⟨iff_of_true rfl unfinished, fun finished => absurd unfinished finished⟩
  · rw [some]
    exact ⟨iff_of_false (Option.some_ne_none _) finished,
      fun _ => ⟨_, rfl, Numeral.value_decimal_regular digits exponent⟩⟩

/-- The exponent of `2E-` stays unfinished; that of `1e9` does not, though both are number tokens. -/
theorem value?_unfinished_finished :
    tokenize "2E- 1e9"
        = .ok [⟨.numberLiteral "2E-", ⟨3, 1, 3⟩⟩, ⟨.numberLiteral "1e9", ⟨7, 1, 7⟩⟩,
            ⟨.endOfInput '\x00', ⟨7, 1, 7⟩⟩]
      ∧ (⟨.numberLiteral "2E-", ⟨3, 1, 3⟩⟩ : Token).value? = none
      ∧ ∃ value, (⟨.numberLiteral "1e9", ⟨7, 1, 7⟩⟩ : Token).value? = some value
          ∧ value.isNaN = false ∧ value.isNegative = false := by
  have done : tokenize "2E- 1e9"
      = .ok [⟨.numberLiteral "2E-", ⟨3, 1, 3⟩⟩, ⟨.numberLiteral "1e9", ⟨7, 1, 7⟩⟩,
          ⟨.endOfInput '\x00', ⟨7, 1, 7⟩⟩] := by
    rw [tokenize_eq_take]
    decide +kernel
  have unfinished : Unfinished "2E-".toList :=
    ⟨['2'], 'E', ['-'], rfl, rfl, by simp [DigitNext, isDigit]⟩
  have finished : ¬ Unfinished ("1e9".toList) := by
    have next : DigitNext ['9'] := Or.inl rfl
    have only : Unfinished (['1'] ++ 'e' :: ['9']) ↔ ¬ DigitNext ['9'] :=
      unfinished_append_iff (List.forall_mem_singleton.mpr rfl) rfl (List.forall_mem_singleton.mpr rfl)
    exact fun unfinished => only.mp unfinished next
  exact ⟨done, ((value?_eq_none_iff done (by simp) rfl).1).mpr unfinished,
    (value?_eq_none_iff done (by simp) rfl).2 finished⟩

end ExprLexer
