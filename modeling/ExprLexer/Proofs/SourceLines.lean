import ExprLexer.Diagnostic.Basic
import Mathlib.Order.Lattice

/-!
Which diagnostics get a line of a source attached.

* `Diagnostic.HasLine`: a source has a line of some number from 1, and the empty source has one;
* `Diagnostic.AttachedByNumber`: what comes of attaching a source whose lines are counted from 1;
* `Diagnostic.sourceLine?_of_hasLine`, `Diagnostic.sourceLine?_of_beyond`: the line looked up;
* `Diagnostic.attachedByNumber_iff`: **attaching a source goes by the number of the line, but for number
  0 in a span that is not the placeholder**, which attaches the first line of a source that has one;
* `Diagnostic.not_attachedByNumber_zero`: so it is there that a line that does not exist is attached.
-/

namespace ExprLexer

/-! ### Lines -/

theorem Text.linesFrom_ne_nil {reversed chars : List Char} (some : reversed ≠ [] ∨ chars ≠ []) :
    linesFrom reversed chars ≠ [] := by
  induction chars generalizing reversed with
  | nil =>
    have filled : reversed ≠ [] := some.resolve_right (fun none => none rfl)
    rw [linesFrom, List.isEmpty_eq_false_iff.mpr filled]
    exact List.cons_ne_nil _ _
  | cons c rest ih =>
    rw [linesFrom]
    split
    · exact List.cons_ne_nil _ _
    · exact ih (Or.inl (List.cons_ne_nil _ _))

namespace Diagnostic

/-- Whether a source has a line of some number, counted from 1.  The empty source has one line. -/
def HasLine (source : String) (number : Nat) : Prop := 1 ≤ number ∧ number ≤ lineCount source

/-- The text of a line by its number from 1; the line of the empty source is empty. -/
def lineText (source : String) (number : Nat) : String :=
  String.ofList ((Text.lines source.toList).getD (number - 1) [])

theorem lineCount_of_ne_empty {source : String} (filled : source ≠ "") :
    lineCount source = (Text.lines source.toList).length := by
  have chars : source.toList ≠ [] := fun none => filled (String.toList_eq_nil_iff.mp none)
  exact max_eq_left (List.length_pos_iff.mpr (Text.linesFrom_ne_nil (Or.inr chars)))

theorem sourceLine?_of_ne_empty {source : String} (filled : source ≠ "") (number : Nat) :
    sourceLine? source number = (Text.lines source.toList)[number - 1]?.map String.ofList := by
  have some : source.isEmpty = false := by
    rw [← Bool.not_eq_true, String.isEmpty_iff]
    exact filled
  rw [sourceLine?, some]
  rfl

/-- A line that the source has is found. -/
theorem sourceLine?_of_hasLine {source : String} {number : Nat} (has : HasLine source number) :
    sourceLine? source number = some (lineText source number) := by
  by_cases empty : source = ""
  · subst empty
    obtain rfl : number = 1 := Nat.le_antisymm has.2 has.1
    rfl
  · have within : number - 1 < (Text.lines source.toList).length :=
      lineCount_of_ne_empty empty ▸ Nat.sub_one_lt_of_le has.1 has.2
    rw [sourceLine?_of_ne_empty empty, lineText, List.getElem?_eq_getElem within,
      List.getD_eq_getElem?_getD, List.getElem?_eq_getElem within]
    rfl

/-- No line is found behind the last. -/
theorem sourceLine?_of_beyond {source : String} {number : Nat}
    (beyond : lineCount source < number) : sourceLine? source number = none := by
  by_cases empty : source = ""
  · subst empty
    have differs : (number == 1) = false := beq_false_of_ne (Nat.ne_of_gt beyond)
    rw [sourceLine?, differs]
    rfl
  · have outside : (Text.lines source.toList).length ≤ number - 1 :=
      Nat.le_sub_one_of_lt (lineCount_of_ne_empty empty ▸ beyond)
    rw [sourceLine?_of_ne_empty empty, List.getElem?_eq_none outside]
    rfl

/-- Number 0 finds the first line. -/
theorem sourceLine?_zero {source : String} (filled : source ≠ "") :
    sourceLine? source 0 = some (lineText source 1) := by
  rw [sourceLine?_of_ne_empty filled, ← sourceLine?_of_ne_empty filled 1]
  exact sourceLine?_of_hasLine ⟨Nat.le_refl 1, Nat.le_max_right _ _⟩

/-! ### Attaching -/

variable {diagnostic : Diagnostic} {source : String}

/-- With a line of the source, and a caret at the column of the span. -/
def withLine (diagnostic : Diagnostic) (line : String) : Diagnostic :=
  { diagnostic with
    snippet := some ⟨line, diagnostic.span.line, max diagnostic.span.column 1⟩ }

theorem attachSource_of_dummy (dummy : diagnostic.span = Span.dummy) :
    diagnostic.attachSource source = .error .missingLocation :=
  (attachSource_eq_missingLocation_iff diagnostic source).mpr dummy

theorem attachSource_of_found (located : diagnostic.span ≠ Span.dummy) {line : String}
    (found : sourceLine? source diagnostic.span.line = some line) :
    diagnostic.attachSource source = .ok (diagnostic.withLine line) := by
  rw [attachSource, if_neg (mt (Span.isDummy_iff _).mp located), found]
  rfl

theorem attachSource_of_missed (located : diagnostic.span ≠ Span.dummy)
    (missed : sourceLine? source diagnostic.span.line = none) :
    diagnostic.attachSource source
      = .error (.invalidLineNumber diagnostic.span.line (lineCount source)) := by
  rw [attachSource, if_neg (mt (Span.isDummy_iff _).mp located), missed]

/-- What comes of attaching a source whose lines are counted from 1: the placeholder has no location;
a line that the source has is attached, and nothing else of the diagnostic changes; any other number is
refused, with the number of lines there are. -/
structure AttachedByNumber (diagnostic : Diagnostic) (source : String)
    (outcome : Except DiagnosticError Diagnostic) : Prop where
  missing : outcome = .error .missingLocation ↔ diagnostic.span = Span.dummy
  attached : ∀ attached, outcome = .ok attached ↔ diagnostic.span ≠ Span.dummy
    ∧ HasLine source diagnostic.span.line
    ∧ attached = { diagnostic with
        snippet := some ⟨lineText source diagnostic.span.line, diagnostic.span.line,
          max diagnostic.span.column 1⟩ }
  refused : ∀ line count, outcome = .error (.invalidLineNumber line count) ↔
    diagnostic.span ≠ Span.dummy ∧ ¬ HasLine source diagnostic.span.line
      ∧ line = diagnostic.span.line ∧ count = max (Text.lines source.toList).length 1

theorem attachedByNumber_of_dummy (dummy : diagnostic.span = Span.dummy) :
    AttachedByNumber diagnostic source (.error .missingLocation) := by
  refine ⟨?_, ?_, ?_⟩ <;> simp [dummy]

theorem attachedByNumber_of_hasLine (located : diagnostic.span ≠ Span.dummy)
    (has : HasLine source diagnostic.span.line) :
    AttachedByNumber diagnostic source
      (.ok (diagnostic.withLine (lineText source diagnostic.span.line))) := by
  refine ⟨?_, ?_, ?_⟩
  · simp [located]
  · intro attached
    rw [Except.ok.injEq]
    exact ⟨fun same => ⟨located, has, same.symm⟩, fun ⟨_, _, same⟩ => same.symm⟩
  · simp [has]

theorem attachedByNumber_of_missed (located : diagnostic.span ≠ Span.dummy)
    (missed : ¬ HasLine source diagnostic.span.line) :
    AttachedByNumber diagnostic source
      (.error (.invalidLineNumber diagnostic.span.line (lineCount source))) := by
  refine ⟨?_, ?_, ?_⟩
  · simp [located]
  · simp [missed]
  · intro line count
    rw [Except.error.injEq, DiagnosticError.invalidLineNumber.injEq]
    exact ⟨fun ⟨same, counted⟩ => ⟨located, missed, same.symm, counted.symm⟩,
      fun ⟨_, _, same, counted⟩ => ⟨same.symm, counted.symm⟩⟩

/-- The first line is attached for number 0. -/
theorem attachSource_zero (located : diagnostic.span ≠ Span.dummy)
    (zero : diagnostic.span.line = 0) (filled : source ≠ "") :
    diagnostic.attachSource source = .ok (diagnostic.withLine (lineText source 1)) :=
  attachSource_of_found located (by rw [zero, sourceLine?_zero filled])

/-- **Attaching a source goes by the number of the line, unless a span that is not the placeholder has
number 0 and the source is not empty.**  Then the first line is attached under that number. -/
theorem attachedByNumber_iff (diagnostic : Diagnostic) (source : String) :
    (AttachedByNumber diagnostic source (diagnostic.attachSource source)
        ↔ (diagnostic.span.line = 0 → diagnostic.span = Span.dummy ∨ source = ""))
      ∧ (diagnostic.span.line = 0 → diagnostic.span ≠ Span.dummy → source ≠ "" →
          diagnostic.attachSource source
            = .ok { diagnostic with
                snippet := some ⟨lineText source 1, 0, max diagnostic.span.column 1⟩ }) := by
  refine ⟨⟨fun attached zero => ?_, fun numbered => ?_⟩, fun zero located filled => ?_⟩
  · by_contra neither
    obtain ⟨located, filled⟩ := not_or.mp neither
    obtain ⟨_, has, _⟩ := (attached.attached _).mp (attachSource_zero located zero filled)
    exact absurd has.1 (by rw [zero]; exact Nat.not_succ_le_zero 0)
  · by_cases located : diagnostic.span = Span.dummy
    · rw [attachSource_of_dummy located]
      exact attachedByNumber_of_dummy located
    · by_cases has : HasLine source diagnostic.span.line
      · rw [attachSource_of_found located (sourceLine?_of_hasLine has)]
        exact attachedByNumber_of_hasLine located has
      · have missed : sourceLine? source diagnostic.span.line = none := by
          rcases Nat.eq_zero_or_pos diagnostic.span.line with zero | counted
          · rw [zero, (numbered zero).resolve_left located]
            rfl
          · exact sourceLine?_of_beyond (not_le.mp fun within => has ⟨counted, within⟩)
        rw [attachSource_of_missed located missed]
        exact attachedByNumber_of_missed located has
  · rw [attachSource_zero located zero filled, withLine, zero]

/-- The source of one line has no line 0, and yet that line is attached for number 0. -/
theorem not_attachedByNumber_zero :
    ¬ AttachedByNumber { message := "e", span := ⟨1, 1, 0, 1⟩ } "a"
        (attachSource { message := "e", span := ⟨1, 1, 0, 1⟩ } "a") := by
  intro attached
  have refused := (attached.refused 0 1).mpr ⟨by decide, fun has => absurd has.1 (by decide), rfl, rfl⟩
  have found : attachSource { message := "e", span := ⟨1, 1, 0, 1⟩ } "a"
      = .ok (withLine { message := "e", span := ⟨1, 1, 0, 1⟩ } "a") := rfl
  rw [found] at refused
  cases refused

end Diagnostic

end ExprLexer
