import ExprLexer.Proofs.Positions
import Mathlib.Algebra.Group.Nat.Defs
import Mathlib.Data.List.Forall2
import Mathlib.Data.List.GetD
import Mathlib.Data.List.TakeDrop
import Mathlib.Data.Prod.Lex
import Mathlib.Order.Interval.Set.Basic

/-!
A cursor is an index into its text, with one more index that it can go back to.

* `Reading`: the ways to read characters off a state, and `Reading.run`: a course of them in which the
  state may be copied and a copy taken up again;
* `Bookmark`: an index with the one to go back to, and `Bookmark.reading`: how characters are read
  at it;
* `Reading.Follows.run`: **states that answer alike and stay related do so over every course**;
* `Cursor.StandsAt.reading`: a cursor answers as the bookmark it stands at;
* `Pos.lineColumn_strictMonoOn`: **line and column alone order the places of a text as the index does**;
* `Cursor.reached_indexed`: **whatever was done with a cursor and its copies, it answers as a
  bookmark, and its bytes, line and column are those of its index**.

The copies are part of the induction: a copy keeps the index to go back to as well, also where that
index is the one it stands at because the text was exhausted.
-/

namespace ExprLexer

/-! ### Courses of reading -/

/-- The ways to read characters off a state. -/
structure Reading (σ : Type) where
  consume : σ → Char × σ
  peek : σ → Char
  reconsume : σ → Bool × σ

namespace Reading

/-- What can be done with a state and with copies of it. -/
inductive Operation
  | consume
  | peek
  | reconsume
  /-- Set a copy aside. -/
  | copy
  /-- Go on with a copy set aside, counted from the latest; nothing happens if there is none. -/
  | restore (which : Nat)
deriving DecidableEq

/-- What an operation answers. -/
inductive Answer
  | character (c : Char)
  | wentBack (done : Bool)
  | nothing
deriving DecidableEq

/-- A state that is read off, and the copies set aside, the latest first. -/
structure Held (σ : Type) where
  current : σ
  copies : List σ

variable {σ τ : Type}

/-- Carries out an operation. -/
def perform (reading : Reading σ) (held : Held σ) : Operation → Answer × Held σ
  | .consume =>
    (.character (reading.consume held.current).1,
      { held with current := (reading.consume held.current).2 })
  | .peek => (.character (reading.peek held.current), held)
  | .reconsume =>
    (.wentBack (reading.reconsume held.current).1,
      { held with current := (reading.reconsume held.current).2 })
  | .copy => (.nothing, { held with copies := held.current :: held.copies })
  | .restore which => (.nothing, { held with current := held.copies.getD which held.current })

/-- Carries out operations in order. -/
def run (reading : Reading σ) (held : Held σ) : List Operation → List Answer × Held σ
  | [] => ([], held)
  | operation :: operations =>
    ((reading.perform held operation).1 :: (run reading (reading.perform held operation).2 operations).1,
      (run reading (reading.perform held operation).2 operations).2)

/-- Related states are read alike, and stay related. -/
structure Follows (related : σ → τ → Prop) (reading : Reading σ) (other : Reading τ) : Prop where
  consume : ∀ {state twin}, related state twin →
    (reading.consume state).1 = (other.consume twin).1
      ∧ related (reading.consume state).2 (other.consume twin).2
  peek : ∀ {state twin}, related state twin → reading.peek state = other.peek twin
  reconsume : ∀ {state twin}, related state twin →
    (reading.reconsume state).1 = (other.reconsume twin).1
      ∧ related (reading.reconsume state).2 (other.reconsume twin).2

/-- States with copies are related copy by copy. -/
structure Held.Related (related : σ → τ → Prop) (held : Held σ) (twin : Held τ) : Prop where
  current : related held.current twin.current
  copies : List.Forall₂ related held.copies twin.copies

namespace Follows

variable {related : σ → τ → Prop} {reading : Reading σ} {other : Reading τ}

theorem perform (follows : Follows related reading other) {held : Held σ} {twin : Held τ}
    (here : held.Related related twin) (operation : Operation) :
    (reading.perform held operation).1 = (other.perform twin operation).1
      ∧ (reading.perform held operation).2.Related related (other.perform twin operation).2 := by
  cases operation with
  | consume =>
    obtain ⟨same, after⟩ := follows.consume here.current
    exact ⟨congrArg Answer.character same, after, here.copies⟩
  | peek => exact ⟨congrArg Answer.character (follows.peek here.current), here⟩
  | reconsume =>
    obtain ⟨same, after⟩ := follows.reconsume here.current
    exact ⟨congrArg Answer.wentBack same, after, here.copies⟩
  | copy => exact ⟨rfl, here.current, .cons here.current here.copies⟩
  | restore which =>
    refine ⟨rfl, ?_, here.copies⟩
    show related (held.copies.getD which held.current) (twin.copies.getD which twin.current)
    have counted := here.copies.length_eq
    by_cases kept : which < held.copies.length
    · rw [List.getD_eq_getElem _ _ kept, List.getD_eq_getElem _ _ (counted ▸ kept)]
      exact (List.forall₂_iff_get.mp here.copies).2 which kept (counted ▸ kept)
    · rw [List.getD_eq_default _ _ (not_lt.mp kept),
        List.getD_eq_default _ _ (counted ▸ not_lt.mp kept)]
      exact here.current

/-- **States that are read alike and stay related do so over every course.** -/
theorem run (follows : Follows related reading other) (operations : List Operation) {held : Held σ}
    {twin : Held τ} (here : held.Related related twin) :
    (reading.run held operations).1 = (other.run twin operations).1
      ∧ (reading.run held operations).2.Related related (other.run twin operations).2 := by
  induction operations generalizing held twin with
  | nil => exact ⟨rfl, here⟩
  | cons operation operations ih =>
    obtain ⟨same, after⟩ := follows.perform here operation
    obtain ⟨later, final⟩ := ih after
    refine ⟨?_, final⟩
    rw [Reading.run, Reading.run, same, later]

end Follows

end Reading

/-! ### Indexes -/

/-- An index into a text, and the index before the last character was taken, if that one was not gone
back to since. -/
structure Bookmark where
  index : Nat
  earlier : Option Nat
deriving DecidableEq

namespace Bookmark

/-- Before a text. -/
def start : Bookmark := ⟨0, none⟩

/-- How the characters of a text are read at an index.  NUL is read behind the last. -/
def reading (text : List Char) : Reading Bookmark where
  consume mark :=
    (text.getD mark.index '\x00',
      ⟨if mark.index < text.length then mark.index + 1 else mark.index, some mark.index⟩)
  peek mark := text.getD mark.index '\x00'
  reconsume mark :=
    match mark.earlier with
    | some index => (true, ⟨index, none⟩)
    | none => (false, mark)

end Bookmark

/-! ### Cursors at an index -/

/-- The place behind the first characters of a text. -/
def ReadState.upTo (text : List Char) (index : Nat) : ReadState :=
  behind (text.take index) (text.drop index)

/-- One more character is read. -/
theorem ReadState.upTo_succ {text : List Char} {index : Nat} (more : index < text.length) :
    upTo text (index + 1)
      = ⟨text.drop (index + 1), (upTo text index).mark.step text[index]⟩ := by
  rw [upTo, behind, ← List.take_concat_get' text index more, Mark.advance_concat]
  rfl

namespace Cursor

theorem saved_consume (cursor : Cursor) : cursor.consume.2.saved = some cursor.current := by
  unfold consume
  split <;> rfl

theorem current_consume_cons {cursor : Cursor} {c : Char} {rest : List Char}
    (next : cursor.current.rest = c :: rest) :
    cursor.consume.2.current = ⟨rest, cursor.current.mark.step c⟩ := by
  rw [consume, next]

theorem current_consume_nil {cursor : Cursor} (exhausted : cursor.current.rest = []) :
    cursor.consume.2.current = cursor.current := by
  rw [consume, exhausted]

/-- How characters are read off a cursor. -/
def reading : Reading Cursor := ⟨consume, peek, reconsume⟩

/-- A cursor whose two places in a text are those of a bookmark. -/
structure StandsAt (text : List Char) (cursor : Cursor) (mark : Bookmark) : Prop where
  bounded : mark.index ≤ text.length
  earlierBounded : ∀ index, mark.earlier = some index → index ≤ text.length
  current : cursor.current = ReadState.upTo text mark.index
  saved : cursor.saved = mark.earlier.map (ReadState.upTo text)

namespace StandsAt

variable {text : List Char} {cursor : Cursor} {mark : Bookmark}

theorem ofString (source : String) : StandsAt source.toList (ofString source) .start where
  bounded := Nat.zero_le _
  earlierBounded := fun _ none => by cases none
  current := rfl
  saved := rfl

theorem peek (stands : StandsAt text cursor mark) : cursor.peek = text.getD mark.index '\x00' := by
  rw [Cursor.peek, stands.current]
  show (text.drop mark.index).headD endOfText = _
  rw [List.headD_eq_head?_getD, List.head?_drop, List.getD_eq_getElem?_getD]
  rfl

theorem consume (stands : StandsAt text cursor mark) :
    StandsAt text cursor.consume.2 ((Bookmark.reading text).consume mark).2 := by
  have saved : cursor.consume.2.saved = some (ReadState.upTo text mark.index) := by
    rw [saved_consume, stands.current]
  have earlierBounded : ∀ index, some mark.index = some index → index ≤ text.length := by
    rintro index ⟨rfl⟩
    exact stands.bounded
  by_cases more : mark.index < text.length
  · have next : cursor.current.rest = text[mark.index] :: text.drop (mark.index + 1) := by
      rw [stands.current]
      exact List.drop_eq_getElem_cons more
    refine ⟨?_, earlierBounded, ?_, saved⟩
    · show (if _ then _ else _) ≤ _
      rw [if_pos more]
      exact more
    · show _ = ReadState.upTo text (if _ then _ else _)
      rw [if_pos more, current_consume_cons next, stands.current, ReadState.upTo_succ more]
  · have exhausted : cursor.current.rest = [] := by
      rw [stands.current]
      exact List.drop_eq_nil_of_le (not_lt.mp more)
    refine ⟨?_, earlierBounded, ?_, saved⟩
    · show (if _ then _ else _) ≤ _
      rw [if_neg more]
      exact stands.bounded
    · show _ = ReadState.upTo text (if _ then _ else _)
      rw [if_neg more, current_consume_nil exhausted]
      exact stands.current

theorem reconsume (stands : StandsAt text cursor mark) :
    cursor.reconsume.1 = ((Bookmark.reading text).reconsume mark).1
      ∧ StandsAt text cursor.reconsume.2 ((Bookmark.reading text).reconsume mark).2 := by
  obtain ⟨index, earlier⟩ := mark
  have saved := stands.saved
  cases earlier with
  | none =>
    rw [Cursor.reconsume, saved]
    exact ⟨rfl, stands⟩
  | some index =>
    rw [Cursor.reconsume, saved]
    exact ⟨rfl, stands.earlierBounded index rfl, nofun, rfl, rfl⟩

/-- **A cursor answers as the bookmark it stands at, and stays at it.** -/
theorem reading (text : List Char) :
    Reading.Follows (StandsAt text) Cursor.reading (Bookmark.reading text) where
  consume := fun stands => ⟨(consume_fst _).trans stands.peek, stands.consume⟩
  peek := fun stands => stands.peek
  reconsume := fun stands => stands.reconsume

end StandsAt

end Cursor

/-! ### Positions by line and column -/

/-- The number from 1 of the last newline among some characters, or 0 if there is none. -/
structure LastNewline (chars : List Char) (number : Nat) : Prop where
  newline : 0 < number → chars[number - 1]? = some '\n'
  last : ∀ later, number ≤ later → chars[later]? ≠ some '\n'

/-- What is left up to a newline has its number. -/
theorem lastNewline_rdropWhile (chars : List Char) :
    LastNewline chars (chars.rdropWhile (· != '\n')).length := by
  have whole := List.rdropWhile_append_rtakeWhile (p := (· != '\n')) (l := chars)
  have plain : '\n' ∉ chars.rtakeWhile (· != '\n') := fun member => by
    simpa using List.mem_rtakeWhile_imp member
  have ends := List.rdropWhile_last_not (· != '\n') chars
  generalize chars.rdropWhile (· != '\n') = front at whole ends ⊢
  generalize chars.rtakeWhile (· != '\n') = back at whole plain
  subst whole
  refine ⟨fun some => ?_, fun later behind newline => ?_⟩
  · have filled : front ≠ [] := List.length_pos_iff.mp some
    rw [List.getElem?_append_left (Nat.sub_one_lt_of_lt some), ← List.getLast?_eq_getElem?,
      List.getLast?_eq_some_getLast filled]
    simpa using ends filled
  · rw [List.getElem?_append_right behind] at newline
    exact plain (List.mem_of_getElem? newline)

namespace Pos

/-- A position by line and column, in the order of reading. -/
def lineColumn (pos : Pos) : Nat ×ₗ Nat := toLex (pos.line, pos.column)

/-- The next character stands later. -/
theorem lineColumn_after_concat (read : List Char) (c : Char) :
    (Pos.after read).lineColumn < (Pos.after (read ++ [c])).lineColumn := by
  unfold lineColumn
  rw [Prod.Lex.toLex_lt_toLex]
  rcases List.eq_nil_or_concat' read with rfl | ⟨front, d, rfl⟩
  · exact Or.inr ⟨rfl, Nat.zero_lt_one⟩
  · by_cases newline : d = '\n'
    · subst newline
      rw [after_newline]
      exact Or.inl (Nat.lt_succ_self _)
    · rw [after_plain front newline c]
      exact Or.inr ⟨rfl, Nat.lt_succ_self _⟩

/-- **Line and column order the places of a text as the index does.** -/
theorem lineColumn_strictMonoOn (text : List Char) :
    StrictMonoOn (fun index => (Pos.after (text.take index)).lineColumn)
      (Set.Iic text.length) := by
  intro first _ second within before
  induction second, before using Nat.le_induction with
  | base =>
    show _ < (Pos.after (text.take (first + 1))).lineColumn
    rw [← List.take_concat_get' text first within]
    exact lineColumn_after_concat _ _
  | succ second _ ih =>
    refine (ih (Nat.le_of_lt within)).trans ?_
    show _ < (Pos.after (text.take (second + 1))).lineColumn
    rw [← List.take_concat_get' text second within]
    exact lineColumn_after_concat _ _

end Pos

/-! ### Everything that is reached -/

theorem encodedSize_eq (chars : List Char) :
    encodedSize chars = (String.ofList chars).utf8ByteSize := by
  induction chars with
  | nil => rfl
  | cons c rest ih =>
    rw [String.ofList_cons, String.utf8ByteSize_append, String.utf8ByteSize_singleton, ← ih]
    rfl

namespace Cursor

/-- What a cursor at an index of a text shows, and where it stands in the bytes of the text. -/
structure Indexed (source : String) (cursor : Cursor) (index : Nat) : Prop where
  bounded : index ≤ source.length
  rest : cursor.current.rest = source.toList.drop index
  atEnd : cursor.atEnd = true ↔ index = source.length
  offset : cursor.current.mark.offset = (String.ofList (source.toList.take index)).utf8ByteSize
  /-- The bytes are cut between two characters. -/
  boundary : String.Pos.Raw.IsValid source ⟨cursor.current.mark.offset⟩
  exhausted : source.utf8ByteSize ≤ cursor.current.mark.offset ↔ index = source.length
  position_index : cursor.position.index = index
  start : index = 0 → cursor.position = Pos.start
  line : 0 < index → cursor.position.line = 1 + (source.toList.take (index - 1)).count '\n'
  column : 0 < index → ∃ newline, LastNewline (source.toList.take (index - 1)) newline
    ∧ cursor.position.column = index - newline
  /-- Lines and columns fit in 32 bits if the number of characters does. -/
  narrow : source.length < 2 ^ 32 →
    cursor.position.line < 2 ^ 32 ∧ cursor.position.column < 2 ^ 32

namespace StandsAt

variable {source : String} {cursor : Cursor} {mark : Bookmark}

theorem position (stands : StandsAt source.toList cursor mark) :
    cursor.position = Pos.after (source.toList.take mark.index) := by
  rw [Cursor.position, stands.current]
  exact Mark.pos_advance_start _

theorem offset (stands : StandsAt source.toList cursor mark) :
    cursor.current.mark.offset
      = (String.ofList (source.toList.take mark.index)).utf8ByteSize := by
  rw [stands.current]
  show (Mark.start.advance (source.toList.take mark.index)).offset = _
  rw [Mark.offset_advance, encodedSize_eq]
  exact Nat.zero_add _

theorem rest (stands : StandsAt source.toList cursor mark) :
    cursor.current.rest = source.toList.drop mark.index := by
  rw [stands.current]
  rfl

/-- **A cursor at an index shows what the characters before it determine.** -/
theorem indexed (stands : StandsAt source.toList cursor mark) :
    Indexed source cursor mark.index := by
  have shown := stands.position
  have offset := stands.offset
  have rest := stands.rest
  have bounded : mark.index ≤ source.toList.length := stands.bounded
  generalize mark.index = index at shown offset rest bounded ⊢
  have counted : (source.toList.take index).length = index := List.length_take_of_le bounded
  have before : (source.toList.take index).dropLast = source.toList.take (index - 1) := by
    rw [List.dropLast_eq_take, counted, List.take_take, min_eq_left (Nat.sub_le _ _)]
  have whole : String.ofList (source.toList.take index) ++ String.ofList (source.toList.drop index)
      = source := by
    rw [← String.ofList_append, List.take_append_drop, String.ofList_toList]
  have ended : source.toList.drop index = [] ↔ index = source.length := by
    rw [List.drop_eq_nil_iff, ← String.length_toList]
    exact ⟨fun behind => Nat.le_antisymm bounded behind, fun same => same.ge⟩
  have newlines : (source.toList.take (index - 1)).count '\n' ≤ index - 1 :=
    List.count_le_length.trans (List.length_take_le _ _)
  refine
    { bounded := bounded
      rest := rest
      atEnd := ?_
      offset := offset
      boundary := ?_
      exhausted := ?_
      position_index := ?_
      start := ?_
      line := ?_
      column := ?_
      narrow := ?_ }
  · rw [Cursor.atEnd, rest, List.isEmpty_iff, ended]
  · rw [String.Pos.Raw.isValid_iff_exists_append]
    exact ⟨_, _, whole.symm, by rw [offset]; rfl⟩
  · rw [← ended, offset]
    nth_rewrite 1 [← whole]
    have empty : (String.ofList (source.toList.drop index)).utf8ByteSize = 0
        ↔ source.toList.drop index = [] := by
      rw [String.utf8ByteSize_eq_zero_iff, String.ofList_eq_empty_iff]
    rw [String.utf8ByteSize_append, ← empty]
    omega
  · rw [shown]
    exact counted
  · rintro rfl
    exact shown
  · intro _
    rw [shown, Pos.after, before]
  · intro _
    refine ⟨_, lastNewline_rdropWhile _, ?_⟩
    rw [shown, Pos.after, before, counted]
  · intro small
    have few : index < 2 ^ 32 := bounded.trans_lt (String.length_toList ▸ small)
    rw [shown, Pos.after, before, counted]
    refine ⟨?_, (Nat.sub_le _ _).trans_lt few⟩
    show 1 + (source.toList.take (index - 1)).count '\n' < 2 ^ 32
    omega

end StandsAt

/-- What operations on a cursor before a text, and on its copies, answer and leave. -/
def course (source : String) (operations : List Reading.Operation) :
    List Reading.Answer × Reading.Held Cursor :=
  reading.run ⟨ofString source, []⟩ operations

end Cursor

namespace Bookmark

/-- What operations on a bookmark before a text, and on its copies, answer and leave. -/
def course (source : String) (operations : List Reading.Operation) :
    List Reading.Answer × Reading.Held Bookmark :=
  (reading source.toList).run ⟨start, []⟩ operations

end Bookmark

theorem Cursor.related_course (source : String) (operations : List Reading.Operation) :
    (course source operations).1 = (Bookmark.course source operations).1
      ∧ (course source operations).2.Related (StandsAt source.toList)
          (Bookmark.course source operations).2 :=
  (StandsAt.reading source.toList).run operations ⟨.ofString source, .nil⟩

/-- **Whatever was done with a cursor and its copies, it answers as an index into the text that
remembers one more, and shows what the characters before that index determine.**  Of two such cursors
the one at the smaller index stands earlier by line and column, and the other way round. -/
theorem Cursor.reached_indexed (source : String) (operations : List Reading.Operation) :
    (course source operations).1 = (Bookmark.course source operations).1
      ∧ Indexed source (course source operations).2.current
          (Bookmark.course source operations).2.current.index
      ∧ ∀ others : List Reading.Operation,
          (Bookmark.course source operations).2.current.index
              < (Bookmark.course source others).2.current.index
            ↔ (course source operations).2.current.position.lineColumn
                < (course source others).2.current.position.lineColumn := by
  obtain ⟨same, related⟩ := related_course source operations
  refine ⟨same, related.current.indexed, fun others => ?_⟩
  have other := (related_course source others).2.current
  rw [related.current.position, other.position]
  exact ((Pos.lineColumn_strictMonoOn source.toList).lt_iff_lt related.current.bounded
    other.bounded).symm

end ExprLexer
