import Mathlib.Data.List.Basic

/-!
Decimal numbers as they are printed.

* `toList_toString`: a number is printed as its digits;
* `not_mem_toDigits`: nothing but digits is among them;
* `head?_toDigits`: no zero stands in front of a positive number;
* `toDigits_inj`: different numbers are printed differently.
-/

namespace ExprLexer

theorem toList_toString (number : Nat) : (toString number).toList = Nat.toDigits 10 number :=
  Nat.toList_repr

theorem not_mem_toDigits {c : Char} (noDigit : c.isDigit = false) (number : Nat) :
    c ∉ Nat.toDigits 10 number := by
  intro member
  rw [Nat.isDigit_of_mem_toDigits (by decide) (by decide) member] at noDigit
  cases noDigit

theorem exists_toDigits_cons (number : Nat) :
    ∃ digit more, Nat.toDigits 10 number = digit :: more ∧ digit.isDigit = true := by
  obtain ⟨digit, more, spelled⟩ :=
    List.exists_cons_of_ne_nil (Nat.toDigits_ne_nil (b := 10) (n := number))
  have member : digit ∈ Nat.toDigits 10 number := spelled ▸ List.mem_cons_self
  exact ⟨digit, more, spelled, Nat.isDigit_of_mem_toDigits (by decide) (by decide) member⟩

/-- The digits of a positive number do not begin with a zero. -/
theorem head?_toDigits {number : Nat} (positive : 0 < number) :
    (Nat.toDigits 10 number).head? ≠ some '0' := by
  induction number using Nat.strongRecOn with
  | ind number ih =>
    rw [Nat.toDigits_eq_if (by decide)]
    split
    · next small =>
      have digits : ∀ digit < 10, 0 < digit → [Nat.digitChar digit].head? ≠ some '0' := by decide
      exact digits number small positive
    · next large =>
      rw [List.head?_append_of_ne_nil _ Nat.toDigits_ne_nil]
      exact ih (number / 10) (Nat.div_lt_self positive (by decide)) (by omega)

/-- Different numbers have different digits. -/
theorem toDigits_inj {number other : Nat}
    (same : Nat.toDigits 10 number = Nat.toDigits 10 other) : number = other := by
  have values := congrArg (Nat.ofDigitChars 10 · 0) same
  simpa [Nat.ofDigitChars_ten_toDigits] using values

end ExprLexer
