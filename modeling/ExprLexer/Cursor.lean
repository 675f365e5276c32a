import ExprLexer.Mark

/-!
A cursor over a text: it hands out one character at a time, shows the next one without taking it,
and gives back the last one it handed out.

* `Cursor.consume`: the next character, or `endOfText` without moving;
* `Cursor.peek`: the character that `consume` would hand out;
* `Cursor.reconsume`: gives back one character, at most once for each `consume`;
* `Cursor.consume_fst`: what is shown is what is handed out.
-/

namespace ExprLexer

/-- The character handed out once a text is exhausted. -/
def endOfText : Char := '\x00'

/-- A place to read from: what is left of the text, and how far it was read. -/
structure ReadState where
  rest : List Char
  mark : Mark
deriving DecidableEq

/-- A cursor: where it reads, and where it read before the last `consume`. -/
structure Cursor where
  current : ReadState
  /-- The state that `reconsume` goes back to. -/
  saved : Option ReadState
deriving DecidableEq

namespace Cursor

/-- A cursor before the first character of a text. -/
def ofString (source : String) : Cursor := ⟨⟨source.toList, Mark.start⟩, none⟩

/-- Hands out the next character.  At the end it hands out `endOfText` and stays. -/
def consume (cursor : Cursor) : Char × Cursor :=
  match cursor.current.rest with
  | [] => (endOfText, ⟨cursor.current, some cursor.current⟩)
  | c :: rest => (c, ⟨⟨rest, cursor.current.mark.step c⟩, some cursor.current⟩)

/-- The character that `consume` would hand out. -/
def peek (cursor : Cursor) : Char := cursor.current.rest.headD endOfText

/-- Goes back to before the last `consume`, unless that was done already. -/
def reconsume (cursor : Cursor) : Bool × Cursor :=
  match cursor.saved with
  | some earlier => (true, ⟨earlier, none⟩)
  | none => (false, cursor)

/-- Whether every character was handed out. -/
def atEnd (cursor : Cursor) : Bool := cursor.current.rest.isEmpty

/-- The position of the last character handed out. -/
def position (cursor : Cursor) : Pos := cursor.current.mark.pos

/-- What is shown is what is handed out. -/
theorem consume_fst (cursor : Cursor) : cursor.consume.1 = cursor.peek := by
  unfold consume peek
  split <;> simp_all

/-- A character just handed out can be given back. -/
theorem reconsume_consume (cursor : Cursor) :
    cursor.consume.2.reconsume = (true, ⟨cursor.current, none⟩) := by
  unfold consume
  split <;> rfl

end Cursor

end ExprLexer
