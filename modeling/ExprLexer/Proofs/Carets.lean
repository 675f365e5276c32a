import ExprLexer.Inspection
import ExprLexer.Proofs.Decimals
import ExprLexer.Proofs.FirstFault
import ExprLexer.Proofs.Stops

/-!
Where the caret stands in the snippet of a lexical error.

* `Raised`: the ways in which a text gives an error, and `Raised.tokenize_eq`: they give the same one;
* `Grammar.Faulty.last`: the character that shows a fault;
* `Pos.after_concat`: a position by the line it stands in;
* `getElem?_lines`: **the line that a position counts is the line that a text splits into**;
* `Snippet.Shows`: the two rows of a rendered snippet, and where its caret stands;
* `attachSource_of_raised`: **every error finds its line, and the caret stands under its character**.

A position counts the newlines before its character, and a text splits at its newlines.  The text
before the line of the character ends at a line, so that both counts agree there
(`Text.lines_append_of_closed`).
-/

namespace ExprLexer

open CharClass Grammar

/-! ### The errors of a text -/

/-- The ways in which a text gives an error: all its tokens are read, the first ones are collected, or
a new lexer looks ahead. -/
inductive Raised (text : String) (error : LexError) : Prop
  | read (failed : tokenize text = .error error)
  | collected {limit : Nat} (failed : collectTokens text limit = .error (.lexical error text))
  | seen {count : Nat} (failed : (Lexer.ofString text).peekMany count = .error error)

/-- All ways give the same error. -/
theorem Raised.tokenize_eq {text : String} {error : LexError} (raised : Raised text error) :
    tokenize text = .error error := by
  cases raised with
  | read failed => exact failed
  | @collected limit failed =>
    unfold collectTokens at failed
    cases taken : Scanner.take limit (Scanner.ofString text) with
    | ok tokens =>
      rw [taken] at failed
      cases failed
    | error other =>
      rw [taken] at failed
      obtain rfl : other = error := by
        have same := Except.error.inj failed
        rw [Failure.lexical.injEq] at same
        exact same.1
      exact Scanner.tokenize_of_take_error taken
  | @seen count failed =>
    have looked : Scanner.look count (Scanner.ofString text) = .error error := by
      rw [← failed]
      exact (Lexer.peekMany_empty (show (Lexer.ofString text).failed = none from rfl) rfl count).symm
    exact Scanner.tokenize_of_look_error looked

namespace Grammar

/-- The character that shows a fault: the point, the exponent, or the last one of the text. -/
theorem Faulty.last {solid shown : List Char} {cause : LexError.Cause}
    (faulty : Faulty solid cause shown) :
    ∃ front last rest, shown = front ++ [last] ∧ solid = front ++ last :: rest
      ∧ (cause = .unexpectedDecimalSeparator ∧ last = '.'
        ∨ cause = .unexpectedExponentMarker ∧ isExponentMarker last = true
        ∨ (∃ quote, cause = .unterminatedString quote) ∧ rest = []) := by
  cases faulty with
  | @unterminated quote content quotes never =>
    rcases List.eq_nil_or_concat (quote :: content) with none | ⟨front, last, same⟩
    · cases none
    · rw [List.concat_eq_append] at same
      exact ⟨front, last, [], same, same, Or.inr (Or.inr ⟨⟨quote, rfl⟩, rfl⟩)⟩
  | @point number rest longest => exact ⟨number, '.', rest, rfl, rfl, Or.inl ⟨rfl, rfl⟩⟩
  | @marker number rest c marks longest =>
    exact ⟨number, c, rest, rfl, rfl, Or.inr (Or.inl ⟨rfl, marks⟩)⟩

end Grammar

/-- The place of an error in its text. -/
theorem Raised.place {text : String} {error : LexError} (raised : Raised text error) :
    ∃ front last rest, text.toList = front ++ last :: rest
      ∧ error.pos = Pos.after (front ++ [last])
      ∧ (error.cause = .unexpectedDecimalSeparator ∧ last = '.'
        ∨ error.cause = .unexpectedExponentMarker ∧ isExponentMarker last = true
        ∨ (∃ quote, error.cause = .unterminatedString quote) ∧ rest = []) := by
  obtain ⟨before, solid, shown, start, faulty, stands, -⟩ :=
    (tokenize_error_iff text error).mp raised.tokenize_eq
  obtain ⟨front, last, rest, rfl, rfl, cases⟩ := faulty.last
  refine ⟨before ++ front, last, rest, ?_, ?_, cases⟩
  · rw [List.append_assoc]
    exact start.whole.symm
  · rw [stands, List.append_assoc]

/-! ### Positions and lines -/

/-- Every text is cut behind its last newline. -/
theorem exists_closed_append (front : List Char) :
    ∃ closed line, front = closed ++ line ∧ Text.Closed closed ∧ '\n' ∉ line := by
  induction front using List.reverseRecOn with
  | nil => exact ⟨[], [], rfl, Or.inl rfl, List.not_mem_nil⟩
  | append_singleton front c ih =>
    by_cases newline : c = '\n'
    · subst newline
      exact ⟨front ++ ['\n'], [], (List.append_nil _).symm, Or.inr ⟨front, rfl⟩, List.not_mem_nil⟩
    · obtain ⟨closed, line, rfl, ends, plain⟩ := ih
      exact ⟨closed, line ++ [c], List.append_assoc _ _ _, ends, by simp [plain, Ne.symm newline]⟩

theorem rdropWhile_of_closed {closed line : List Char} (ends : Text.Closed closed)
    (plain : '\n' ∉ line) : (closed ++ line).rdropWhile (· != '\n') = closed := by
  have none : ∀ c ∈ line.reverse, (c != '\n') = true :=
    fun c member => all_ne_of_not_mem plain c (List.mem_reverse.mp member)
  have within : (closed ++ line).rdropWhile (· != '\n') = closed.rdropWhile (· != '\n') := by
    rw [List.rdropWhile, List.reverse_append, List.dropWhile_append_of_pos none]
    rfl
  rw [within]
  rcases ends with rfl | ⟨front, rfl⟩
  · rfl
  · exact List.rdropWhile_concat_neg _ _ _ (by simp)

/-- A position by the line it stands in. -/
theorem Pos.after_concat {closed line : List Char} (ends : Text.Closed closed)
    (plain : '\n' ∉ line) (last : Char) :
    Pos.after (closed ++ line ++ [last])
      = ⟨(closed ++ line).length + 1, closed.count '\n' + 1, line.length + 1⟩ := by
  have noNewline : line.count '\n' = 0 := List.count_eq_zero.mpr plain
  unfold Pos.after
  rw [List.dropLast_concat, rdropWhile_of_closed ends plain, List.count_append, noNewline,
    Pos.mk.injEq]
  refine ⟨?_, Nat.add_comm _ _, ?_⟩
  · rw [List.length_append, List.length_singleton]
  · simp only [List.length_append, List.length_singleton]
    omega

/-- **The line that a position counts is the line that a text splits into.** -/
theorem getElem?_lines {closed back shown : List Char} {later : List (List Char)}
    (ends : Text.Closed closed) (first : Text.lines back = shown :: later) :
    (Text.lines (closed ++ back))[closed.count '\n']? = some shown := by
  have counted := Text.length_lines ends
  rw [Text.lines_append_of_closed ends, first, List.getElem?_append_right (Nat.le_of_eq counted),
    counted, Nat.sub_self]
  rfl

theorem getLast?_append_of_closed {closed : List Char} (ends : Text.Closed closed)
    (line : List Char) :
    (closed ++ line).getLast? = some '\r' ↔ line.getLast? = some '\r' := by
  rcases List.eq_nil_or_concat' line with rfl | ⟨front, c, rfl⟩
  · rcases ends with rfl | ⟨front, rfl⟩
    · rfl
    · simp
  · rw [← List.append_assoc, List.getLast?_concat, List.getLast?_concat]

/-- The line of a character, as a text shows it.  It has the character in its place, unless that is
the newline at the end of the text; then the place is behind the line, and behind the carriage return
that the line does not show. -/
theorem exists_shown {closed line rest : List Char} {last : Char} (ends : Text.Closed closed)
    (plain : '\n' ∉ line) (kept : last ≠ '\r' ∨ rest = []) :
    ∃ shown, (Text.lines (closed ++ (line ++ last :: rest)))[closed.count '\n']? = some shown
      ∧ '\n' ∉ shown
      ∧ (last ≠ '\n' → shown[line.length]? = some last)
      ∧ (last = '\n' → line.length
          = shown.length + if (closed ++ line).getLast? = some '\r' then 1 else 0) := by
  by_cases newline : last = '\n'
  · subst newline
    have first := Text.lines_append_newline plain rest
    have dropped := Text.dropReturn_reverse line
    generalize (Text.dropReturn line.reverse).reverse = shown at first dropped
    refine ⟨shown, getElem?_lines ends first, ?_, fun other => absurd rfl other, fun _ => ?_⟩
    · rcases dropped with ⟨-, rfl⟩ | ⟨-, rfl⟩
      · exact fun member => plain (List.mem_append_left _ member)
      · exact plain
    · rcases dropped with ⟨returns, same⟩ | ⟨returns, same⟩
      · rw [if_pos ((getLast?_append_of_closed ends line).mpr returns), ← same, List.length_append, List.length_singleton]
      · rw [if_neg (mt (getLast?_append_of_closed ends line).mp returns), same, Nat.add_zero]
  · obtain ⟨shown, later, first, single, found⟩ := Text.lines_of_plain_append plain newline kept
    exact ⟨shown, getElem?_lines ends first, single, fun _ => found, fun same => absurd same newline⟩

/-! ### The rows of a snippet -/

namespace Snippet

/-- A rendered snippet has two rows, and the caret stands in the second one behind `caret`
characters. -/
structure Shows (snippet : Snippet) (row : List Char) (caret : Nat) : Prop where
  rendered : ∃ before, snippet.render.toList = row ++ '\n' :: (before ++ ['^'])
    ∧ before.length = caret ∧ '^' ∉ before ∧ '\n' ∉ before
  single : '\n' ∉ row

/-- What stands before the line and what stands before the columns of the caret have the same width,
as the gutter is as wide as every line number. -/
theorem exists_shows (snippet : Snippet) (plain : '\n' ∉ snippet.line.toList) :
    ∃ head, snippet.Shows (head ++ snippet.line.toList) (head.length + (snippet.column - 1)) := by
  have width : (toString snippet.lineNumber).length ≤ snippet.gutter := Nat.le_max_left _ _
  have bar : " | ".toList = [' ', '|', ' '] := rfl
  have newline : "\n".toList = ['\n'] := rfl
  have row : snippet.sourceRow.toList
      = List.replicate (snippet.gutter - (toString snippet.lineNumber).length) ' '
          ++ (toString snippet.lineNumber).toList ++ [' ', '|', ' '] ++ snippet.line.toList := by
    simp only [sourceRow, blanks, String.toList_append, String.toList_ofList, bar]
  have caret : snippet.caretRow.toList
      = List.replicate snippet.gutter ' ' ++ [' ', '|', ' ']
          ++ List.replicate (snippet.column - 1) ' ' ++ ['^'] := by
    simp only [caretRow, blanks, String.toList_append, String.toList_ofList, bar]
    rfl
  refine ⟨List.replicate (snippet.gutter - (toString snippet.lineNumber).length) ' '
    ++ (toString snippet.lineNumber).toList ++ [' ', '|', ' '],
    ⟨⟨List.replicate snippet.gutter ' ' ++ [' ', '|', ' ']
      ++ List.replicate (snippet.column - 1) ' ', ?_, ?_, ?_, ?_⟩, ?_⟩⟩
  · rw [render, String.toList_append, String.toList_append, row, caret, newline, List.append_assoc,
      List.singleton_append]
  · simp only [List.length_append, List.length_replicate, String.length_toList, List.length_cons,
      List.length_nil]
    omega
  · simp
  · simp
  · have number : '\n' ∉ (toString snippet.lineNumber).toList := by
      rw [toList_toString]
      exact not_mem_toDigits (by decide) _
    generalize (toString snippet.lineNumber).toList = digits at number
    simp [plain, number]

end Snippet

/-! ### The snippet of an error -/

/-- **Every error of a text finds its line, and the caret stands under its character.**  The character
is the point or the exponent that should not be there, or the last one of a text that ends within a
string.  If that is a newline, the caret stands behind the line, one further if the line does not show
its carriage return.  No count of the position exceeds the number of characters. -/
theorem attachSource_of_raised {text : String} {error : LexError} (raised : Raised text error) :
    ∃ snippet row caret,
      error.toDiagnostic.attachSource text
          = .ok { error.toDiagnostic with snippet := some snippet }
      ∧ error.explain text = { error.toDiagnostic with snippet := some snippet }
      ∧ snippet.lineNumber = error.pos.line
      ∧ (∃ before, error.pos.line = before + 1
          ∧ (Text.lines text.toList)[before]? = some snippet.line.toList)
      ∧ snippet.Shows row caret
      ∧ (∃ front last rest, text.toList = front ++ last :: rest
          ∧ error.pos.index = front.length + 1
          ∧ (error.cause = .unexpectedDecimalSeparator ∧ last = '.'
            ∨ error.cause = .unexpectedExponentMarker ∧ (last = 'e' ∨ last = 'E')
            ∨ (∃ quote, error.cause = .unterminatedString quote) ∧ rest = [])
          ∧ (last ≠ '\n' → row[caret]? = some last)
          ∧ (last = '\n'
            → caret = row.length + if front.getLast? = some '\r' then 1 else 0))
      ∧ error.pos.line ≤ text.length ∧ error.pos.column ≤ text.length := by
  obtain ⟨front, last, rest, whole, stands, cause⟩ := raised.place
  obtain ⟨closed, line, rfl, ends, plain⟩ := exists_closed_append front
  rw [Pos.after_concat ends plain] at stands
  have kept : last ≠ '\r' ∨ rest = [] := by
    rcases cause with ⟨-, rfl⟩ | ⟨-, marks⟩ | ⟨-, none⟩
    · exact Or.inl (by decide)
    · exact Or.inl fun same => absurd marks (by rw [same]; decide)
    · exact Or.inr none
  obtain ⟨shown, found, single, inside, behind⟩ := exists_shown ends plain kept
  rw [← List.append_assoc, ← whole] at found
  have atLine : error.pos.line = closed.count '\n' + 1 := by rw [stands]
  have atColumn : error.pos.column = line.length + 1 := by rw [stands]
  have size : (closed ++ line ++ last :: rest).length = text.length := by
    rw [← whole, String.length_toList]
  simp only [List.length_append, List.length_cons] at size
  have newlines : closed.count '\n' ≤ closed.length := List.count_le_length
  have numbered : error.toDiagnostic.span.line = closed.count '\n' + 1 := atLine
  have attached := Diagnostic.attachSource_of_line numbered found
  have single : '\n' ∉ (String.ofList shown).toList := by rwa [String.toList_ofList]
  obtain ⟨head, shows⟩ :=
    Snippet.exists_shows ⟨String.ofList shown, error.pos.line, max error.pos.column 1⟩ single
  have column : max error.pos.column 1 - 1 = line.length := by omega
  rw [String.toList_ofList, column] at shows
  refine ⟨_, _, _, attached, ?_, rfl, ⟨closed.count '\n', atLine, ?_⟩, shows,
    ⟨closed ++ line, last, rest, whole, ?_, ?_, fun other => ?_, fun newline => ?_⟩, ?_, ?_⟩
  · rw [LexError.explain, attached]
  · rw [found, String.toList_ofList]
  · rw [stands]
  · simpa [isExponentMarker] using cause
  · rw [List.getElem?_append_right (Nat.le_add_right _ _), Nat.add_sub_cancel_left]
    exact inside other
  · rw [behind newline, List.length_append, Nat.add_assoc]
  · omega
  · omega

/-- Under a string that stays open up to the end of its line, the caret stands two places behind what
is shown. -/
theorem attachSource_of_raised_return :
    tokenize "a\n'b\r\n" = .error ⟨.unterminatedString '\'', ⟨6, 2, 4⟩⟩
      ∧ ∃ snippet row caret,
        (LexError.mk (.unterminatedString '\'') ⟨6, 2, 4⟩).explain "a\n'b\r\n"
            = { (LexError.mk (.unterminatedString '\'') ⟨6, 2, 4⟩).toDiagnostic with
                snippet := some snippet }
        ∧ snippet.Shows row caret ∧ caret = row.length + 1 := by
  have failed : tokenize "a\n'b\r\n" = .error ⟨.unterminatedString '\'', ⟨6, 2, 4⟩⟩ :=
    (tokenize_eq_take _).trans (by decide +kernel)
  obtain ⟨snippet, row, caret, -, explained, -, -, shows,
    ⟨front, last, rest, whole, index, -, -, behind⟩, -, -⟩ := attachSource_of_raised (.read failed)
  obtain ⟨rfl, tail⟩ : ['a', '\n', '\'', 'b', '\r'] = front ∧ ['\n'] = last :: rest :=
    List.append_inj whole (Nat.succ.inj index)
  obtain ⟨rfl, rfl⟩ := List.cons.inj tail
  exact ⟨failed, snippet, row, caret, explained, shows, behind rfl⟩

end ExprLexer
