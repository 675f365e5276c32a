import ExprLexer.Cursor
import Mathlib.Data.List.DropRight

/-!
Positions in closed form: where the last of some characters stands.

* `Pos.after`: the index counts the characters, the line counts the newlines before the last one,
  the column counts from the last such newline;
* `Mark.pos_advance_start`: **a mark that is moved on character by character has that position**;
* `ReadState.behind`: the place behind some characters of a text.
-/

namespace ExprLexer

/-- The position of the last of the characters read from the start of a text.  A newline belongs to
the line it ends. -/
def Pos.after (read : List Char) : Pos where
  index := read.length
  line := 1 + read.dropLast.count '\n'
  column := read.length - (read.dropLast.rdropWhile (· != '\n')).length

namespace Pos

/-- Behind a newline the next character opens a line. -/
theorem after_newline (read : List Char) (c : Char) :
    Pos.after (read ++ ['\n'] ++ [c])
      = ⟨(Pos.after (read ++ ['\n'])).index + 1, (Pos.after (read ++ ['\n'])).line + 1, 1⟩ := by
  have whole : (read ++ ['\n']).rdropWhile (· != '\n') = read ++ ['\n'] :=
    List.rdropWhile_concat_neg _ _ _ (by simp)
  have counted : (read ++ ['\n']).count '\n' = read.count '\n' + 1 := by
    rw [List.count_append, List.count_singleton_self]
  unfold Pos.after
  rw [List.dropLast_concat, List.dropLast_concat, whole, counted, Pos.mk.injEq]
  exact ⟨by simp, (Nat.add_assoc _ _ _).symm, by simp⟩

theorem after_plain (read : List Char) {d : Char} (plain : d ≠ '\n') (c : Char) :
    Pos.after (read ++ [d] ++ [c])
      = ⟨(Pos.after (read ++ [d])).index + 1, (Pos.after (read ++ [d])).line,
          (Pos.after (read ++ [d])).column + 1⟩ := by
  have same : (read ++ [d]).rdropWhile (· != '\n') = read.rdropWhile (· != '\n') :=
    List.rdropWhile_concat_pos _ _ _ (by simpa using plain)
  have counted : (read ++ [d]).count '\n' = read.count '\n' := by
    simp [plain]
  have bounded : (read.rdropWhile (· != '\n')).length ≤ read.length :=
    (List.rdropWhile_prefix _ _).length_le
  unfold Pos.after
  rw [List.dropLast_concat, List.dropLast_concat, same, counted, Pos.mk.injEq]
  refine ⟨by simp, rfl, ?_⟩
  simp only [List.length_append, List.length_singleton]
  omega

end Pos

namespace Mark

theorem advance_concat (mark : Mark) (read : List Char) (c : Char) :
    mark.advance (read ++ [c]) = (mark.advance read).step c := by
  rw [advance_append]
  rfl

theorem afterNewline_advance_concat (mark : Mark) (read : List Char) (c : Char) :
    (mark.advance (read ++ [c])).afterNewline = (c == '\n') := by
  rw [advance_concat]
  rfl

/-- **A mark moved on from the start of a text has the position of the last character read.** -/
theorem pos_advance_start (read : List Char) : (start.advance read).pos = Pos.after read := by
  induction read using List.reverseRecOn with
  | nil => rfl
  | append_singleton read c ih =>
    rw [advance_concat, step]
    rcases List.eq_nil_or_concat' read with rfl | ⟨front, d, rfl⟩
    · rfl
    · rw [afterNewline_advance_concat, ih]
      by_cases newline : d = '\n'
      · subst newline
        exact (Pos.after_newline front c).symm
      · have plain : (d == '\n') = false := by simpa using newline
        rw [plain]
        exact (Pos.after_plain front newline c).symm

end Mark

/-- The place behind some characters of a text, with the rest of it not yet read. -/
def ReadState.behind (read rest : List Char) : ReadState := ⟨rest, Mark.start.advance read⟩

end ExprLexer
