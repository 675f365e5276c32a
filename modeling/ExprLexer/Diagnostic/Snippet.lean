/-!
A line of source with a caret under one of its columns.

* `Snippet.render`: two rows behind a gutter that is as wide as the line number, and three wide at
  least.
-/

namespace ExprLexer

/-- A line of source and the place in it that is meant. -/
structure Snippet where
  line : String
  /-- The number of the line, from 1. -/
  lineNumber : Nat
  /-- The column of the caret, from 1. -/
  column : Nat
deriving DecidableEq

namespace Snippet

/-- Blanks. -/
def blanks (count : Nat) : String := String.ofList (List.replicate count ' ')

/-- The width of the gutter. -/
def gutter (snippet : Snippet) : Nat := max (toString snippet.lineNumber).length 3

/-- The row with the line of source. -/
def sourceRow (snippet : Snippet) : String :=
  let number := toString snippet.lineNumber
  blanks (snippet.gutter - number.length) ++ number ++ " | " ++ snippet.line

/-- The row with the caret. -/
def caretRow (snippet : Snippet) : String :=
  blanks snippet.gutter ++ " | " ++ blanks (snippet.column - 1) ++ "^"

/-- Both rows. -/
def render (snippet : Snippet) : String := snippet.sourceRow ++ "\n" ++ snippet.caretRow

end Snippet

end ExprLexer
