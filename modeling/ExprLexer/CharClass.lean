import ExprLexer.Unicode.Alphabetic
import ExprLexer.Unicode.Numeric
import ExprLexer.Unicode.WhiteSpace

/-!
The classes of characters that tokens are made of.

* `isEndOfInput`, `isIdentStart`, `isIdentContinue`, `isDigit`, `isQuote`, `isExponentMarker`,
  `isSign`, `isOperatorStart`, `isBlank`: the classes;
* `isIdentContinue_of_isIdentStart`: what begins an identifier also continues one.
-/

namespace ExprLexer.CharClass

/-- The characters that end the input wherever a token could begin: NUL and U+0003. -/
def isEndOfInput (c : Char) : Bool := c == '\x00' || c == '\x03'

/-- The characters between tokens. -/
def isBlank (c : Char) : Bool := Unicode.whiteSpace.contains c

/-- Letters of any script. -/
def isLetter (c : Char) : Bool := Unicode.alphabetic.contains c

/-- Letters and numbers of any script. -/
def isLetterOrNumber (c : Char) : Bool := isLetter c || Unicode.numeric.contains c

/-- The characters that begin an identifier. -/
def isIdentStart (c : Char) : Bool := c == '_' || isLetter c

/-- The characters that continue an identifier. -/
def isIdentContinue (c : Char) : Bool := c == '_' || isLetterOrNumber c

/-- The digits of number literals: ASCII alone. -/
def isDigit (c : Char) : Bool := '0' ≤ c && c ≤ '9'

/-- The characters that enclose a string literal. -/
def isQuote (c : Char) : Bool := c == '\'' || c == '"'

/-- The characters that begin the exponent of a number. -/
def isExponentMarker (c : Char) : Bool := c == 'e' || c == 'E'

/-- The characters that may precede the digits of an exponent. -/
def isSign (c : Char) : Bool := c == '+' || c == '-'

/-- The characters that some operator begins with. -/
def isOperatorStart (c : Char) : Bool :=
  ['+', '-', '*', '/', '^', '!', '&', '|', '=', '>', '<'].contains c

/-- What begins an identifier also continues one. -/
theorem isIdentContinue_of_isIdentStart {c : Char} (starts : isIdentStart c = true) :
    isIdentContinue c = true := by
  rw [isIdentStart, Bool.or_eq_true] at starts
  rw [isIdentContinue, isLetterOrNumber, Bool.or_eq_true, Bool.or_eq_true]
  rcases starts with underscore | letter
  · exact Or.inl underscore
  · exact Or.inr (Or.inl letter)

end ExprLexer.CharClass
