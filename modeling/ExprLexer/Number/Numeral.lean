import ExprLexer.CharClass
import ExprLexer.Number.Binary64

/-!
Number texts and their values.

A numeral is an optional sign and then a word for infinity or for no number, in any case, or
digits with at most one point and at least one digit, and an optional exponent with at least one
digit.

* `Numeral.ofChars?`: reads a numeral, the whole text or nothing;
* `Numeral.value`: the double precision value nearest to it;
* `valueOf?`: both steps on a text.
-/

namespace ExprLexer

open CharClass

/-- What a number text says. -/
inductive Numeral
  /-- The number `digits * 10 ^ exponent`, with or without a minus sign. -/
  | decimal (negative : Bool) (digits : Nat) (exponent : Int)
  | infinity (negative : Bool)
  | notANumber
deriving DecidableEq

namespace Numeral

/-- The number that some digits write. -/
def natOfDigits (digits : List Char) : Nat := Nat.ofDigitChars 10 digits 0

/-- A run of digits, not empty. -/
def digits? (chars : List Char) : Option Nat :=
  if !chars.isEmpty && chars.all isDigit then some (natOfDigits chars) else none

/-- An optional sign and what follows it. -/
def splitSign : List Char → Bool × List Char
  | '-' :: rest => (true, rest)
  | '+' :: rest => (false, rest)
  | chars => (false, chars)

/-- An exponent with its marker; none at all stands for zero. -/
def exponent? : List Char → Option Int
  | [] => some 0
  | marker :: rest =>
    if isExponentMarker marker then
      let (negative, chars) := splitSign rest
      (digits? chars).map fun size => if negative then -(size : Int) else size
    else none

/-- The fraction behind a point, and what follows it. -/
def splitFraction : List Char → List Char × List Char
  | '.' :: rest => (rest.takeWhile isDigit, rest.dropWhile isDigit)
  | chars => ([], chars)

/-- A numeral without its sign: its digits read as a whole number, and its power of ten. -/
def magnitude? (chars : List Char) : Option (Nat × Int) :=
  let whole := chars.takeWhile isDigit
  let (fraction, tail) := splitFraction (chars.dropWhile isDigit)
  if whole.isEmpty && fraction.isEmpty then none
  else (exponent? tail).map fun exponent =>
    (natOfDigits (whole ++ fraction), exponent - fraction.length)

/-- Whether some characters are a word, in whatever case. -/
def isWord (word : String) (chars : List Char) : Bool := chars.map Char.toLower == word.toList

/-- Reads a numeral. -/
def ofChars? (text : List Char) : Option Numeral :=
  let (negative, chars) := splitSign text
  if isWord "nan" chars then some .notANumber
  else if isWord "inf" chars || isWord "infinity" chars then some (.infinity negative)
  else (magnitude? chars).map fun (digits, exponent) => .decimal negative digits exponent

/-- The double precision value nearest to a numeral. -/
def value : Numeral → Binary64
  | decimal negative digits exponent =>
    .ofBits negative (Binary64.decimalBits digits exponent)
  | infinity negative => .ofBits negative Binary64.infinityBits
  | notANumber => .nan

/-- The value of a number text. -/
def valueOf? (text : String) : Option Binary64 := (ofChars? text.toList).map value

end Numeral

end ExprLexer
