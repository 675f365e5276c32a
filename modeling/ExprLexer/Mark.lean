import ExprLexer.Position

/-!
The read state of a text: how far reading has come, in bytes, characters, lines and columns.

A newline belongs to the line it ends; the character after it opens the next line.

* `Mark.advance`: the state after reading some more characters;
* `Mark.advance_append`: reading is compositional;
* `Mark.index_advance`, `Mark.offset_advance`: it counts characters and their encoded bytes.
-/

namespace ExprLexer

/-- How far a text was read. -/
structure Mark where
  /-- The bytes read, in the UTF-8 encoding of the text. -/
  offset : Nat
  /-- The position of the last character read. -/
  pos : Pos
  afterNewline : Bool
deriving DecidableEq, Inhabited

/-- The number of bytes that encode some characters. -/
def encodedSize (chars : List Char) : Nat :=
  chars.foldr (fun c size => c.utf8Size + size) 0

namespace Mark

/-- Nothing is read yet. -/
def start : Mark := ⟨0, Pos.start, false⟩

/-- The state after one more character. -/
def step (mark : Mark) (c : Char) : Mark where
  offset := mark.offset + c.utf8Size
  pos :=
    if mark.afterNewline then ⟨mark.pos.index + 1, mark.pos.line + 1, 1⟩
    else ⟨mark.pos.index + 1, mark.pos.line, mark.pos.column + 1⟩
  afterNewline := c == '\n'

/-- The state after some more characters. -/
def advance (mark : Mark) (chars : List Char) : Mark := chars.foldl step mark

@[simp] theorem advance_nil (mark : Mark) : mark.advance [] = mark := rfl

@[simp] theorem advance_cons (mark : Mark) (c : Char) (chars : List Char) :
    mark.advance (c :: chars) = (mark.step c).advance chars := rfl

/-- Reading is compositional. -/
theorem advance_append (mark : Mark) (front back : List Char) :
    mark.advance (front ++ back) = (mark.advance front).advance back := by
  simp [advance, List.foldl_append]

@[simp] theorem index_step (mark : Mark) (c : Char) :
    (mark.step c).pos.index = mark.pos.index + 1 := by
  unfold step
  split <;> rfl

/-- Each character counts once. -/
theorem index_advance (mark : Mark) (chars : List Char) :
    (mark.advance chars).pos.index = mark.pos.index + chars.length := by
  induction chars generalizing mark with
  | nil => rfl
  | cons c rest ih =>
    rw [advance_cons, ih, index_step, List.length_cons]
    omega

/-- Each character counts by the bytes that encode it. -/
theorem offset_advance (mark : Mark) (chars : List Char) :
    (mark.advance chars).offset = mark.offset + encodedSize chars := by
  induction chars generalizing mark with
  | nil => simp [encodedSize]
  | cons c rest ih =>
    rw [advance_cons, ih]
    simp [step, encodedSize, Nat.add_assoc]

end Mark

end ExprLexer
