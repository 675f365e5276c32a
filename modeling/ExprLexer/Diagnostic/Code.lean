/-!
Codes that name the kinds of diagnostics, such as `E1002`.

* `DiagnosticCode.label`: the code as shown, its number padded to four digits.
-/

namespace ExprLexer

/-- A code: a letter prefix and a number. -/
structure DiagnosticCode where
  category : String
  number : Nat
deriving DecidableEq

namespace DiagnosticCode

/-- A number with zeros in front up to four digits. -/
def padded (number : Nat) : String :=
  let digits := toString number
  String.ofList (List.replicate (4 - digits.length) '0') ++ digits

/-- The code as shown. -/
def label (code : DiagnosticCode) : String := code.category ++ padded code.number

/-- The code as shown in a listing of values. -/
def inspect (code : DiagnosticCode) : String := s!"DiagnosticCode({code.label})"

/-- An identifier began with a character that cannot begin one. -/
def invalidIdentifierStart : DiagnosticCode := ⟨"E", 1001⟩

/-- A number literal is malformed. -/
def invalidNumber : DiagnosticCode := ⟨"E", 1002⟩

/-- A string literal has no closing quote. -/
def unterminatedString : DiagnosticCode := ⟨"E", 1003⟩

end DiagnosticCode

end ExprLexer
