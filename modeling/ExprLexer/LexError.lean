import ExprLexer.Diagnostic.Basic
import ExprLexer.Text.Quoted

/-!
Lexical errors: why a text does not cut into tokens, and where.

* `LexError.message`: the wording, with the position;
* `LexError.toDiagnostic`: the error as a diagnostic at its position;
* `LexError.explain`: that diagnostic with a line of the text, if the text has it.
-/

namespace ExprLexer

/-- What is wrong with the characters of a token. -/
inductive LexError.Cause
  /-- An identifier begins with a character that cannot begin one. -/
  | invalidIdentifierStart (found : Char)
  /-- A number that has its point or its exponent goes on with a point. -/
  | unexpectedDecimalSeparator
  /-- A number that has its exponent goes on with another. -/
  | unexpectedExponentMarker
  /-- A string has no closing quote. -/
  | unterminatedString (delimiter : Char)
deriving DecidableEq

/-- A fault in a text, with the position of the character that shows it. -/
structure LexError where
  cause : LexError.Cause
  pos : Pos
deriving DecidableEq

namespace LexError

/-- The wording of the error. -/
def message (error : LexError) : String :=
  match error.cause with
  | .invalidIdentifierStart found =>
    "an identifier cannot start with the character " ++ Text.quoteChar found ++ " at " ++
      error.pos.describe
  | .unexpectedDecimalSeparator => "unexpected decimal separator at " ++ error.pos.describe
  | .unexpectedExponentMarker => "unexpected power of ten separator at " ++ error.pos.describe
  | .unterminatedString delimiter =>
    "unterminated string literal at " ++ error.pos.describe ++ ": missing closing " ++
      String.singleton delimiter

/-- The code of the error. -/
def code (error : LexError) : DiagnosticCode :=
  match error.cause with
  | .invalidIdentifierStart _ => .invalidIdentifierStart
  | .unexpectedDecimalSeparator | .unexpectedExponentMarker => .invalidNumber
  | .unterminatedString _ => .unterminatedString

/-- The headline of the diagnostic. -/
def headline : Cause → String
  | .invalidIdentifierStart found => "an identifier cannot start with " ++ Text.quoteChar found
  | .unexpectedDecimalSeparator => "unexpected decimal separator"
  | .unexpectedExponentMarker => "unexpected power of ten separator"
  | .unterminatedString _ => "unterminated string literal"

/-- The notes of the diagnostic. -/
def notes : Cause → List String
  | .unterminatedString delimiter =>
    ["expected a closing " ++ String.singleton delimiter ++ " before end of input"]
  | _ => []

/-- The advice of the diagnostic. -/
def helps : Cause → List String
  | .unexpectedDecimalSeparator =>
    ["a number literal takes at most one '.' and none after its exponent"]
  | .unexpectedExponentMarker => ["a number literal takes at most one exponent"]
  | _ => []

/-- The error as a diagnostic at its position. -/
def toDiagnostic (error : LexError) : Diagnostic where
  message := headline error.cause
  span := Span.ofPos error.pos
  code := some error.code
  notes := notes error.cause
  helps := helps error.cause

/-- The diagnostic, with the line of the text it points into if the text has that line. -/
def explain (error : LexError) (text : String) : Diagnostic :=
  match error.toDiagnostic.attachSource text with
  | .ok diagnostic => diagnostic
  | .error _ => error.toDiagnostic

end LexError

end ExprLexer
