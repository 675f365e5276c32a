import ExprLexer.Json
import ExprLexer.Token

/-!
Tokens as printed: one a row, or as a list of records.

* `Token.record`: what is printed of a token in a record;
* `Rendering.render`: the printed form of some tokens.
-/

namespace ExprLexer

/-- The two printed forms. -/
inductive OutputFormat
  /-- One token a row. -/
  | plain
  /-- A JSON list of records. -/
  | json
deriving DecidableEq

namespace OutputFormat

/-- The name of the form. -/
def name : OutputFormat → String
  | plain => "plain"
  | json => "json"

/-- The form of some name. -/
def ofName? (name : String) : Option OutputFormat :=
  if name = "plain" then some plain else if name = "json" then some json else none

theorem ofName?_name (format : OutputFormat) : ofName? format.name = some format := by
  cases format <;> rfl

end OutputFormat

/-- The text of a token in a record; the end of the input has none. -/
def TokenKind.recordText : TokenKind → String
  | .endOfInput _ => ""
  | .delimiter c => String.singleton c
  | .identifier text | .stringLiteral text | .numberLiteral text => text
  | .operator op => op.lexeme

/-- What a record says of an operator. -/
def Operator.recordFields (op : Operator) : List (String × Json) :=
  [("precedence", .number op.precedence.level), ("left_assoc", .boolean op.leftAssoc)]

/-- What is printed of a token in a record. -/
def Token.record (token : Token) : Json :=
  .object <|
    [("kind", .text token.kind.name), ("text", .text token.kind.recordText),
      ("index", .number token.pos.index), ("line", .number token.pos.line),
      ("column", .number token.pos.column)] ++
    (match token.operator? with
      | some op => op.recordFields
      | none => [])

/-- The row of a token, with or without its position. -/
def Token.row (token : Token) (positions : Bool) : String :=
  if positions then token.pos.describe ++ "\t" ++ token.describe else token.describe

/-- How tokens are printed. -/
structure Rendering where
  format : OutputFormat
  /-- Whether plain rows begin with the position. -/
  positions : Bool
deriving DecidableEq

namespace Rendering

/-- The printed form of some tokens, without a newline at the end. -/
def render (rendering : Rendering) (tokens : List Token) : String :=
  match rendering.format with
  | .plain => String.intercalate "\n" (tokens.map fun token => token.row rendering.positions)
  | .json => (Json.list (tokens.map Token.record)).pretty

end Rendering

end ExprLexer
