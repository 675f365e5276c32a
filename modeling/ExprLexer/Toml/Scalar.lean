import ExprLexer.Number.Numeral
import ExprLexer.Toml.Item
import ExprLexer.Toml.Text

/-!
Numbers, truth values and dates in a TOML document.

* `integer?`: a whole number of 64 bits with its sign, in one of four bases;
* `float?`: a number with a point or an exponent, infinity, or no number;
* `dateTime?`: a date, a time of day, or both, with an offset from universal time or without;
* `scalar?`: any of them at the front of some characters.
-/

namespace ExprLexer.Toml

open CharClass (isDigit)

/-! ### Whole numbers -/

/-- Digits in groups: an underscore may stand between two digits.  Returns the digits alone. -/
def ungroup? (isMember : Char → Bool) : List Char → Option (List Char)
  | [] => none
  | [c] => if isMember c then some [c] else none
  | c :: '_' :: rest =>
    if isMember c then (ungroup? isMember rest).map (c :: ·) else none
  | c :: rest => if isMember c then (ungroup? isMember rest).map (c :: ·) else none

/-- The digits of a whole number in base ten, which begins with zero only if it is zero. -/
def decimalDigits? (chars : List Char) : Option (List Char) :=
  (ungroup? isDigit chars).filter fun digits => digits.head? != some '0' || digits.length == 1

/-- The largest whole number. -/
def largestInteger : Nat := 0x7FFFFFFFFFFFFFFF

/-- The number that digits in a base of at most sixteen write. -/
def natOfHex (base : Nat) (digits : List Char) : Nat :=
  digits.foldl (fun value c => base * value + (hexValue? c).getD 0) 0

/-- A whole number behind the mark of its base. -/
def based? (base : Nat) (chars : List Char) : Option Int :=
  let isMember (c : Char) : Bool := (hexValue? c).any (· < base)
  ((ungroup? isMember chars).map (natOfHex base)).bind fun value =>
    if value ≤ largestInteger then some (value : Int) else none

/-- A whole number of 64 bits with its sign. -/
def integer? : List Char → Option Int
  | '0' :: 'x' :: digits => based? 16 digits
  | '0' :: 'o' :: digits => based? 8 digits
  | '0' :: 'b' :: digits => based? 2 digits
  | chars =>
    let (negative, magnitude) := Numeral.splitSign chars
    (decimalDigits? magnitude).bind fun digits =>
      let value := Numeral.natOfDigits digits
      if negative then if value ≤ largestInteger + 1 then some (-(value : Int)) else none
      else if value ≤ largestInteger then some (value : Int) else none

/-! ### Other numbers -/

/-- The characters of a group of digits. -/
def isGroupChar (c : Char) : Bool := isDigit c || c == '_'

/-- Whether some characters are an exponent with its marker. -/
def isExponent : List Char → Bool
  | [] => false
  | marker :: rest =>
    CharClass.isExponentMarker marker && (ungroup? isDigit (Numeral.splitSign rest).2).isSome

/-- Whether some characters are what follows the whole part: a fraction, an exponent, or both. -/
def isFloatTail : List Char → Bool
  | '.' :: rest =>
    let exponent := rest.dropWhile isGroupChar
    (ungroup? isDigit (rest.takeWhile isGroupChar)).isSome &&
      (exponent.isEmpty || isExponent exponent)
  | chars => isExponent chars

/-- Whether a number written without underscores is too large for double precision.  Only numbers
without a minus sign are refused for that. -/
def overflows (chars : List Char) : Bool :=
  Numeral.valueOf? (String.ofList (chars.filter (· != '_'))) ==
    some (Binary64.ofBits false Binary64.infinityBits)

/-- Whether some characters are a number with a point or an exponent. -/
def isFloat (chars : List Char) : Bool :=
  let magnitude := (Numeral.splitSign chars).2
  if magnitude = ['i', 'n', 'f'] || magnitude = ['n', 'a', 'n'] then true
  else
    (decimalDigits? (magnitude.takeWhile isGroupChar)).isSome &&
      isFloatTail (magnitude.dropWhile isGroupChar) && !overflows chars

/-! ### Dates and times -/

/-- The number that two digits write, if it lies within bounds. -/
def pair? (low high : Nat) (tens ones : Char) : Option Nat :=
  if isDigit tens && isDigit ones then
    let value := Numeral.natOfDigits [tens, ones]
    if low ≤ value && value ≤ high then some value else none
  else none

/-- The days of a month. -/
def daysIn (year month : Nat) : Nat :=
  if month = 2 then
    if year % 4 = 0 && (year % 100 != 0 || year % 400 = 0) then 29 else 28
  else if month = 4 || month = 6 || month = 9 || month = 11 then 30
  else 31

/-- A date at the front of some characters; returns what follows it. -/
def date? : List Char → Option (List Char)
  | y₁ :: y₂ :: y₃ :: y₄ :: '-' :: m₁ :: m₂ :: '-' :: d₁ :: d₂ :: rest =>
    if [y₁, y₂, y₃, y₄].all isDigit then
      (pair? 1 12 m₁ m₂).bind fun month =>
        (pair? 1 (daysIn (Numeral.natOfDigits [y₁, y₂, y₃, y₄]) month) d₁ d₂).map fun _ => rest
    else none
  | _ => none

/-- A fraction of a second at the front, if there is one; returns what follows it. -/
def skipFraction : List Char → List Char
  | '.' :: rest => if rest.head?.any isDigit then rest.dropWhile isDigit else '.' :: rest
  | chars => chars

/-- A time of day at the front of some characters; returns what follows it. -/
def time? : List Char → Option (List Char)
  | h₁ :: h₂ :: ':' :: m₁ :: m₂ :: ':' :: s₁ :: s₂ :: rest =>
    if (pair? 0 23 h₁ h₂).isSome && (pair? 0 59 m₁ m₂).isSome && (pair? 0 60 s₁ s₂).isSome then
      some (skipFraction rest)
    else none
  | _ => none

/-- Whether some characters are an offset from universal time, or nothing. -/
def isOffset : List Char → Bool
  | [] => true
  | [c] => c == 'Z' || c == 'z'
  | [sign, h₁, h₂, ':', m₁, m₂] =>
    CharClass.isSign sign && (pair? 0 23 h₁ h₂).isSome && (pair? 0 59 m₁ m₂).isSome
  | _ => false

/-- Whether some characters are a date. -/
def isDate (chars : List Char) : Bool := date? chars == some []

/-- Whether some characters are a time of day, with an offset or without. -/
def isClock (chars : List Char) : Bool := (time? chars).any isOffset

/-- Whether some characters are a time of day, or a date with one behind the letter `T`. -/
def isDateTime (chars : List Char) : Bool :=
  time? chars == some [] ||
    match date? chars with
    | some (c :: rest) => (c == 'T' || c == 't') && isClock rest
    | _ => false

/-! ### All of them -/

/-- The characters of numbers, words and dates. -/
def isScalarChar (c : Char) : Bool :=
  isNameChar c || c == '+' || c == '.' || c == ':'

/-- What some characters write, all of them. -/
def scalarOf? (chars : List Char) : Option Item :=
  if chars = ['t', 'r', 'u', 'e'] then some (.boolean true)
  else if chars = ['f', 'a', 'l', 's', 'e'] then some (.boolean false)
  else if isDateTime chars then some (.dateTime (String.ofList chars))
  else if isFloat chars then some (.float (String.ofList chars))
  else (integer? chars).map .integer

/-- A date behind which a time of day may follow after one blank. -/
def spacedDate? (date : List Char) : Reader Item
  | ' ' :: rest =>
    if rest.head?.any isDigit then
      let clock := rest.takeWhile isScalarChar
      if isClock clock then
        some (.dateTime (String.ofList (date ++ ' ' :: clock)), rest.dropWhile isScalarChar)
      else none
    else some (.dateTime (String.ofList date), ' ' :: rest)
  | rest => some (.dateTime (String.ofList date), rest)

/-- A number, a truth value or a date at the front of some characters. -/
def scalar? : Reader Item := fun chars =>
  let run := chars.takeWhile isScalarChar
  let rest := chars.dropWhile isScalarChar
  if isDate run then spacedDate? run rest
  else (scalarOf? run).map fun item => (item, rest)

end ExprLexer.Toml
