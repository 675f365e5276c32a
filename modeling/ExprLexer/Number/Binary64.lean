/-!
Double precision values, and the rounding of a decimal to the nearest of them.

A value is given by its 64 bits: sign, biased exponent and fraction.  The finite values without a
sign are numbered by their bits in ascending order, so a carry out of the fraction lands in the
exponent and, past the last finite value, on infinity.

* `roundQuotient`: the nearest whole number to a quotient, a tie going to the even one;
* `nearestBits`: the bits of the value nearest to a quotient;
* `decimalBits`: the bits of the value nearest to a whole number times a power of ten;
* `decimalBits_le`: those bits never go past infinity, so the value is a number without a sign.
-/

namespace ExprLexer

/-- A double precision value. -/
structure Binary64 where
  /-- Its bits, the sign first. -/
  bits : UInt64
deriving DecidableEq

namespace Binary64

/-- The bits of infinity. -/
def infinityBits : Nat := 0x7FF0000000000000

/-- The bit of the sign. -/
def signBit : Nat := 0x8000000000000000

/-- The value with some bits, with or without a sign. -/
def ofBits (negative : Bool) (bits : Nat) : Binary64 :=
  ⟨UInt64.ofNat (if negative then signBit + bits else bits)⟩

/-- A value that is no number. -/
def nan : Binary64 := ⟨0x7FF8000000000000⟩

/-- Whether the value is no number. -/
def isNaN (value : Binary64) : Bool := infinityBits < value.bits.toNat % signBit

/-- Whether the value has a sign. -/
def isNegative (value : Binary64) : Bool := signBit ≤ value.bits.toNat

/-- The nearest whole number to a quotient; a tie goes to the even one. -/
def roundQuotient (numerator denominator : Nat) : Nat :=
  let below := numerator / denominator
  let twice := 2 * (numerator % denominator)
  if twice < denominator then below
  else if denominator < twice then below + 1
  else below + below % 2

/-- The bits of the value nearest to a quotient.  It is measured in units of the least positive
value; from 53 bits on, in that unit times the power of two that leaves 53 bits. -/
def nearestBits (numerator denominator : Nat) : Nat :=
  let scaled := numerator * Nat.pow 2 1074
  let shift := (scaled / denominator).log2 - 52
  min (shift * Nat.pow 2 52 + roundQuotient scaled (denominator * Nat.pow 2 shift)) infinityBits

/-- The bits of the value nearest to `digits * 10 ^ exponent`.  Exponents that decide the outcome
by themselves do so, and no large power is formed for them. -/
def decimalBits (digits : Nat) (exponent : Int) : Nat :=
  if digits = 0 then 0
  else if 310 ≤ exponent then infinityBits
  else if exponent < -(330 + digits.log2 : Int) then 0
  else if 0 ≤ exponent then nearestBits (digits * Nat.pow 10 exponent.toNat) 1
  else nearestBits digits (Nat.pow 10 (-exponent).toNat)

theorem nearestBits_le (numerator denominator : Nat) :
    nearestBits numerator denominator ≤ infinityBits :=
  Nat.min_le_right _ _

/-- The bits of a decimal never go past infinity. -/
theorem decimalBits_le (digits : Nat) (exponent : Int) :
    decimalBits digits exponent ≤ infinityBits := by
  unfold decimalBits
  repeat' split
  · exact Nat.zero_le _
  · exact Nat.le_refl _
  · exact Nat.zero_le _
  · exact nearestBits_le _ _
  · exact nearestBits_le _ _

/-- Bits up to infinity make a number without a sign. -/
theorem ofBits_regular {bits : Nat} (bounded : bits ≤ infinityBits) :
    (ofBits false bits).isNaN = false ∧ (ofBits false bits).isNegative = false := by
  have small : bits < signBit := Nat.lt_of_le_of_lt bounded (by decide)
  have word : (ofBits false bits).bits.toNat = bits := by
    have fits : bits < 2 ^ 64 := Nat.lt_trans small (by decide)
    exact UInt64.toNat_ofNat_of_lt' fits
  constructor
  · simp [isNaN, word, Nat.mod_eq_of_lt small, bounded]
  · simp [isNegative, word, small]

end Binary64

end ExprLexer
