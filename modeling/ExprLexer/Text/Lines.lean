/-!
The lines of a text.

A newline ends a line and is no part of it, nor is one carriage return right before it.  A text
that ends in a newline has no empty line after it, and a carriage return that no newline follows
belongs to its line.

* `lines`: the lines of some characters;
* `lines_append_newline`: a line that holds no newline is read back, less its carriage return;
* `lines_of_plain`: a text without a newline is one line, unless it is empty;
* `lines_append_of_closed`: the lines of a text that ends at a line come first, and `length_lines`
  counts them;
* `dropReturn_reverse`: what is dropped of a line;
* `lines_of_plain_append`: the first line of a text, seen from one of its characters.
-/

namespace ExprLexer.Text

/-- A line, given last character first, without the carriage return at its end. -/
def dropReturn : List Char → List Char
  | '\r' :: reversed => reversed
  | reversed => reversed

/-- The lines of some characters, where `reversed` is the part already read of the first line, last
character first. -/
def linesFrom (reversed : List Char) : List Char → List (List Char)
  | [] => if reversed.isEmpty then [] else [reversed.reverse]
  | c :: rest =>
    if c = '\n' then (dropReturn reversed).reverse :: linesFrom [] rest
    else linesFrom (c :: reversed) rest

/-- The lines of some characters. -/
def lines (chars : List Char) : List (List Char) := linesFrom [] chars

theorem linesFrom_append {front : List Char} (plain : '\n' ∉ front) (reversed back : List Char) :
    linesFrom reversed (front ++ back) = linesFrom (front.reverse ++ reversed) back := by
  induction front generalizing reversed with
  | nil => rfl
  | cons c rest ih =>
    obtain ⟨differs, later⟩ := not_or.mp fun h => plain (List.mem_cons.mpr h)
    rw [List.cons_append, linesFrom, if_neg fun same => differs same.symm, ih later]
    simp

/-- A line that holds no newline is read back, less its carriage return. -/
theorem lines_append_newline {line : List Char} (plain : '\n' ∉ line) (back : List Char) :
    lines (line ++ '\n' :: back) = (dropReturn line.reverse).reverse :: lines back := by
  rw [lines, linesFrom_append plain, List.append_nil, linesFrom, if_pos rfl]
  rfl

/-- A text without a newline is one line, unless it is empty. -/
theorem lines_of_plain {line : List Char} (plain : '\n' ∉ line) :
    lines line = if line.isEmpty then [] else [line] := by
  have whole := linesFrom_append plain [] []
  rw [List.append_nil, List.append_nil] at whole
  rw [lines, whole, linesFrom]
  simp

/-! ### Texts that end at a line -/

theorem linesFrom_append_newline (reversed front back : List Char) :
    linesFrom reversed (front ++ '\n' :: back)
      = linesFrom reversed (front ++ ['\n']) ++ lines back := by
  induction front generalizing reversed with
  | nil => rfl
  | cons c rest ih =>
    rw [List.cons_append, List.cons_append, linesFrom, linesFrom]
    split
    · rw [ih, List.cons_append]
    · exact ih (c :: reversed)

theorem length_linesFrom_newline (reversed front : List Char) :
    (linesFrom reversed (front ++ ['\n'])).length = front.count '\n' + 1 := by
  induction front generalizing reversed with
  | nil => rfl
  | cons c rest ih =>
    rw [List.cons_append, linesFrom]
    split
    · next newline =>
      subst newline
      rw [List.length_cons, ih, List.count_cons_self]
    · next other => rw [ih, List.count_cons_of_ne other]

/-- Characters that end where a line does. -/
def Closed (chars : List Char) : Prop := chars = [] ∨ ∃ front, chars = front ++ ['\n']

/-- The lines of a text that ends at a line come first. -/
theorem lines_append_of_closed {front : List Char} (closed : Closed front) (back : List Char) :
    lines (front ++ back) = lines front ++ lines back := by
  rcases closed with rfl | ⟨front, rfl⟩
  · rfl
  · rw [List.append_assoc]
    exact linesFrom_append_newline [] front back

/-- A text that ends at a line has as many lines as newlines. -/
theorem length_lines {front : List Char} (closed : Closed front) :
    (lines front).length = front.count '\n' := by
  rcases closed with rfl | ⟨front, rfl⟩
  · rfl
  · rw [List.count_append, List.count_singleton_self]
    exact length_linesFrom_newline [] front

/-! ### The first line -/

/-- A line is shown up to the carriage return at its end. -/
theorem dropReturn_reverse (line : List Char) :
    (line.getLast? = some '\r' ∧ (dropReturn line.reverse).reverse ++ ['\r'] = line)
      ∨ (line.getLast? ≠ some '\r' ∧ (dropReturn line.reverse).reverse = line) := by
  rcases List.eq_nil_or_concat line with rfl | ⟨front, c, rfl⟩
  · exact Or.inr ⟨by simp, rfl⟩
  · by_cases ends : c = '\r'
    · subst ends
      exact Or.inl ⟨by simp, by simp [dropReturn]⟩
    · exact Or.inr ⟨by simpa using ends, by simp [dropReturn, ends]⟩

/-- The first line of a text shows each of its characters that is neither a newline nor a carriage
return dropped before one. -/
theorem lines_of_plain_append {line rest : List Char} {c : Char} (plain : '\n' ∉ line)
    (noNewline : c ≠ '\n') (kept : c ≠ '\r' ∨ rest = []) :
    ∃ shown later, lines (line ++ c :: rest) = shown :: later ∧ '\n' ∉ shown
      ∧ shown[line.length]? = some c := by
  by_cases newline : '\n' ∈ rest
  · obtain ⟨middle, behind, rfl, plainMiddle⟩ := List.eq_append_cons_of_mem newline
    have plainLine : '\n' ∉ line ++ c :: middle := by
      simp [plain, plainMiddle, Ne.symm noNewline]
    have cut : line ++ c :: (middle ++ '\n' :: behind) = line ++ c :: middle ++ '\n' :: behind := by
      simp
    refine ⟨_, _, cut ▸ lines_append_newline plainLine behind, ?_⟩
    rcases dropReturn_reverse (line ++ c :: middle) with ⟨ends, shown⟩ | ⟨-, shown⟩
    · generalize (dropReturn (line ++ c :: middle).reverse).reverse = front at shown ⊢
      have found : (front ++ ['\r'])[line.length]? = some c := by rw [shown]; simp
      rw [← shown] at plainLine
      refine ⟨fun member => plainLine (List.mem_append_left _ member), ?_⟩
      rcases Nat.lt_or_ge line.length front.length with within | behindIt
      · rwa [List.getElem?_append_left within] at found
      · -- the character dropped is a carriage return before a newline, so that it is not this one
        rw [List.getElem?_append_right behindIt] at found
        have same : c = '\r' := List.mem_singleton.mp (List.mem_of_getElem? found)
        rcases kept with other | none
        · exact absurd same other
        · simp at none
    · rw [shown]
      exact ⟨plainLine, by simp⟩
  · have plainLine : '\n' ∉ line ++ c :: rest := by simp [plain, newline, Ne.symm noNewline]
    refine ⟨line ++ c :: rest, [], ?_, plainLine, by simp⟩
    rw [lines_of_plain plainLine]
    simp

end ExprLexer.Text
