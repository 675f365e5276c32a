import ExprLexer.Diagnostic.Code
import ExprLexer.Diagnostic.Snippet
import ExprLexer.Position
import ExprLexer.Text.Lines

/-!
Diagnostics: a message with a location, a code, notes, helps and a source snippet.

* `Diagnostic.attachSource`: takes the snippet from the line that the span names;
* `Diagnostic.render`: the diagnostic as shown;
* `Diagnostic.attachSource_eq_missingLocation_iff`: only the placeholder span has no location;
* `Diagnostic.attachSource_of_line`: a line that the source has is attached.
-/

namespace ExprLexer

/-- How grave a diagnostic is. -/
inductive Level
  | error
deriving DecidableEq

/-- The level as shown. -/
def Level.label : Level → String
  | .error => "error"

/-- A message about a place in a text. -/
structure Diagnostic where
  level : Level := .error
  message : String
  span : Span
  code : Option DiagnosticCode := none
  notes : List String := []
  helps : List String := []
  snippet : Option Snippet := none
deriving DecidableEq

/-- Why no source line could be attached. -/
inductive DiagnosticError
  /-- The source has no such line. -/
  | invalidLineNumber (line lineCount : Nat)
  | missingLocation
deriving DecidableEq

/-- The wording of the error. -/
def DiagnosticError.message : DiagnosticError → String
  | .invalidLineNumber line lineCount =>
    s!"Invalid line number: {line} (source has {lineCount} lines)"
  | .missingLocation => "Diagnostic has no source location"

namespace Diagnostic

/-- With a code. -/
def withCode (diagnostic : Diagnostic) (code : DiagnosticCode) : Diagnostic :=
  { diagnostic with code := some code }

/-- With one more note. -/
def withNote (diagnostic : Diagnostic) (note : String) : Diagnostic :=
  { diagnostic with notes := diagnostic.notes ++ [note] }

/-- With one more help. -/
def withHelp (diagnostic : Diagnostic) (help : String) : Diagnostic :=
  { diagnostic with helps := diagnostic.helps ++ [help] }

/-- The line of a source by its number from 1; number 0 also names the first.  The empty source
has one empty line. -/
def sourceLine? (source : String) (number : Nat) : Option String :=
  if source.isEmpty && number == 1 then some ""
  else (Text.lines source.toList)[number - 1]?.map String.ofList

/-- How many lines a source has; the empty source has one. -/
def lineCount (source : String) : Nat := max (Text.lines source.toList).length 1

/-- Attaches the line that the span names, with a caret at its column. -/
def attachSource (diagnostic : Diagnostic) (source : String) : Except DiagnosticError Diagnostic :=
  if diagnostic.span.isDummy then .error .missingLocation
  else
    match sourceLine? source diagnostic.span.line with
    | none => .error (.invalidLineNumber diagnostic.span.line (lineCount source))
    | some line =>
      let snippet := ⟨line, diagnostic.span.line, max diagnostic.span.column 1⟩
      .ok { diagnostic with snippet := some snippet }

/-- The diagnostic as shown: heading, location, snippet, notes and helps. -/
def render (diagnostic : Diagnostic) : String :=
  let heading :=
    match diagnostic.code with
    | some code => s!"{diagnostic.level.label}[{code.label}]: {diagnostic.message}"
    | none => s!"{diagnostic.level.label}: {diagnostic.message}"
  let location :=
    if diagnostic.span.isDummy then ""
    else s!"\n --> {diagnostic.span.line}:{diagnostic.span.column}"
  let excerpt :=
    match diagnostic.snippet with
    | some snippet => "\n" ++ snippet.render
    | none => ""
  let notes := String.join (diagnostic.notes.map fun note => "\n = note: " ++ note)
  let helps := String.join (diagnostic.helps.map fun help => "\n = help: " ++ help)
  heading ++ location ++ excerpt ++ notes ++ helps

/-- Only the placeholder span has no location. -/
theorem attachSource_eq_missingLocation_iff (diagnostic : Diagnostic) (source : String) :
    diagnostic.attachSource source = .error .missingLocation ↔ diagnostic.span = Span.dummy := by
  rw [← Span.isDummy_iff]
  unfold attachSource
  constructor
  · intro missing
    split at missing
    · assumption
    · split at missing <;> simp at missing
  · intro dummy
    rw [if_pos dummy]

/-- A line that the source has is attached. -/
theorem attachSource_of_line {diagnostic : Diagnostic} {source : String} {before : Nat}
    {line : List Char} (numbered : diagnostic.span.line = before + 1)
    (found : (Text.lines source.toList)[before]? = some line) :
    diagnostic.attachSource source = .ok { diagnostic with
      snippet := some ⟨String.ofList line, diagnostic.span.line, max diagnostic.span.column 1⟩ } := by
  have located : ¬ diagnostic.span.isDummy = true := by
    intro dummy
    rw [(Span.isDummy_iff _).mp dummy] at numbered
    exact absurd numbered (Nat.succ_ne_zero before).symm
  have nonempty : source.isEmpty = false := by
    rw [← Bool.not_eq_true, String.isEmpty_iff]
    rintro rfl
    cases found
  have shown : sourceLine? source diagnostic.span.line = some (String.ofList line) := by
    rw [sourceLine?, nonempty, numbered, Nat.add_sub_cancel, found]
    rfl
  unfold attachSource
  rw [if_neg located, shown]

end Diagnostic

end ExprLexer
