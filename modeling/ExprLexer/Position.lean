/-!
Positions in a text, counted in characters, and the spans that diagnostics point at.

* `Pos.start`: the position before anything is read;
* `Pos.describe`: a position as `line:column`;
* `Span.ofPos`: the empty span on a position;
* `Span.isDummy_ofPos`: such a span is the placeholder exactly for the all-zero position.
-/

namespace ExprLexer

/-- A place in a text: the number of characters read so far, and the line and column of the last
of them. -/
structure Pos where
  /-- How many characters were read. -/
  index : Nat
  /-- The line of the last character read, from 1. -/
  line : Nat
  /-- The column of the last character read, from 1; 0 before the first. -/
  column : Nat
deriving DecidableEq, Inhabited

namespace Pos

/-- The position before anything is read. -/
def start : Pos := ⟨0, 1, 0⟩

/-- The position as shown to a reader. -/
def describe (pos : Pos) : String := s!"{pos.line}:{pos.column}"

/-- Positions are ordered by index, then line, then column. -/
protected def compare (first second : Pos) : Ordering :=
  (compare first.index second.index).then
    ((compare first.line second.line).then (compare first.column second.column))

instance : Ord Pos := ⟨Pos.compare⟩

end Pos

/-- What a diagnostic points at: a range of character indexes and where it begins. -/
structure Span where
  first : Nat
  last : Nat
  /-- The line the range begins on, from 1. -/
  line : Nat
  /-- The column the range begins at, from 1. -/
  column : Nat
deriving DecidableEq, Inhabited

namespace Span

/-- The placeholder of a diagnostic that has no location. -/
def dummy : Span := ⟨0, 0, 0, 0⟩

/-- The empty span on a position. -/
def ofPos (pos : Pos) : Span := ⟨pos.index, pos.index, pos.line, pos.column⟩

/-- Whether a span is the placeholder. -/
def isDummy (span : Span) : Bool := span == dummy

theorem isDummy_iff (span : Span) : span.isDummy = true ↔ span = dummy := by
  simp [isDummy]

/-- The span on a position is the placeholder exactly for the all-zero position. -/
theorem isDummy_ofPos (pos : Pos) : (Span.ofPos pos).isDummy = true ↔ pos = ⟨0, 0, 0⟩ := by
  obtain ⟨index, line, column⟩ := pos
  simp [isDummy_iff, ofPos, dummy]

end Span

end ExprLexer
