import ExprLexer.Number.Numeral
import ExprLexer.Operator
import ExprLexer.Position
import ExprLexer.Text.Quoted

/-!
Tokens: what they are and where they end.

* `TokenKind`: the kinds, each with what it carries;
* `TokenKind.spelling`: a way to write the kind;
* `Token.describe`: the token as shown to a reader;
* `Token.value?`: the value of a number token.
-/

namespace ExprLexer

/-- What a token is. -/
inductive TokenKind
  /-- The end of the input, with the character that ended it. -/
  | endOfInput (c : Char)
  /-- A single character that no other kind claims. -/
  | delimiter (c : Char)
  /-- Letters, numbers and underscores that do not begin with a number. -/
  | identifier (text : String)
  /-- A quoted text, without its quotes. -/
  | stringLiteral (text : String)
  /-- A number, as written. -/
  | numberLiteral (text : String)
  | operator (op : Operator)
deriving DecidableEq

namespace TokenKind

/-- The name of the kind. -/
def name : TokenKind → String
  | endOfInput _ => "end of input"
  | delimiter _ => "delimiter"
  | identifier _ => "identifier"
  | stringLiteral _ => "string"
  | numberLiteral _ => "number"
  | operator _ => "operator"

/-- Whether the kind ends the input. -/
def isEnd : TokenKind → Bool
  | endOfInput _ => true
  | _ => false

/-- The text of identifiers and literals. -/
def text? : TokenKind → Option String
  | identifier text | stringLiteral text | numberLiteral text => some text
  | _ => none

/-- The operator of an operator token. -/
def operator? : TokenKind → Option Operator
  | operator op => some op
  | _ => none

/-- The kind as shown to a reader. -/
def describe : TokenKind → String
  | endOfInput _ => "end of input"
  | delimiter c => "delimiter " ++ Text.quoteChar c
  | identifier text => "identifier " ++ text
  | stringLiteral text => "string " ++ Text.quoteText text
  | numberLiteral text => "number " ++ text
  | operator op => "operator " ++ op.lexeme

/-- The value of a number; none for text that is no complete numeral, such as `1e`. -/
def value? : TokenKind → Option Binary64
  | numberLiteral text => Numeral.valueOf? text
  | _ => none

/-- A quote that a text does not hold, if it lacks one of the two. -/
def quoteFor (text : String) : Char := if text.toList.contains '"' then '\'' else '"'

/-- A way to write a kind. -/
def spelling : TokenKind → List Char
  | endOfInput c => [c]
  | delimiter c => [c]
  | identifier text => text.toList
  | stringLiteral text => quoteFor text :: text.toList ++ [quoteFor text]
  | numberLiteral text => text.toList
  | operator op => op.symbol

end TokenKind

/-- A kind and the position of the last character of its spelling. -/
structure Token where
  kind : TokenKind
  /-- Where it ends. -/
  pos : Pos
deriving DecidableEq

namespace Token

/-- Whether the token ends the input. -/
def isEnd (token : Token) : Bool := token.kind.isEnd

/-- The text of identifiers and literals. -/
def text? (token : Token) : Option String := token.kind.text?

/-- The operator of an operator token. -/
def operator? (token : Token) : Option Operator := token.kind.operator?

/-- Whether the token is the delimiter `c`. -/
def isDelimiter (token : Token) (c : Char) : Bool := token.kind == .delimiter c

/-- The value of a number token. -/
def value? (token : Token) : Option Binary64 := token.kind.value?

/-- The token as shown to a reader. -/
def describe (token : Token) : String := token.kind.describe

end Token

end ExprLexer
