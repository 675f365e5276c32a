import ExprLexer.Proofs.Draining
import ExprLexer.Proofs.Separation

/-!
Nothing behind the end of the input is read.

* `Lexer.Shown`: what a lexer shows between operations, and `Lexer.trace`: what a run answers and shows
  step by step;
* `Lexer.Twins`: lexers of two texts that differ in their scanners only, and `Lexer.Twins.perform`:
  **operations keep them so if the two texts have the same results of scanning**;
* `Lexer.trace_congr`: a lexer shows nothing of its text but the results of scanning it;
* `Lexing.append_behind_end`: **what follows a character that ends the input does not change the
  lexing**;
* `Lexer.trace_behind_end`: texts that differ behind such a character only are not told apart.

A character that ends the input may stand in a string, and then the text behind it counts.  A text
that ends in one and whose lexing succeeds leaves no string open, so that the lexing came to a token
start there or stopped before.
-/

namespace ExprLexer

open CharClass Grammar

namespace Lexer

/-! ### What a run shows -/

/-- What a lexer shows between operations. -/
structure Shown where
  produced : Nat
  /-- How many tokens wait to be replayed. -/
  pending : Nat
  position : Pos
  current : Option Token
deriving DecidableEq

def shown (lexer : Lexer) : Shown :=
  ⟨lexer.produced, lexer.pending.length, lexer.position, lexer.current⟩

/-- What a run answers, and what the lexer shows after each operation. -/
def trace (lexer : Lexer) : List Operation → List (Answer × Shown)
  | [] => []
  | operation :: operations =>
    ((lexer.perform operation).1, (lexer.perform operation).2.shown)
      :: trace (lexer.perform operation).2 operations

/-- Lexers that two runs can reach over two texts, and that differ in their scanners only. -/
structure Twins (source other : String) (lexer twin : Lexer) : Prop where
  coherent : Coherent source lexer
  coherentTwin : Coherent other twin
  placed : Placed lexer
  placedTwin : Placed twin
  same : twin = { lexer with scanner := twin.scanner }

namespace Twins

variable {source other : String} {lexer twin : Lexer}

theorem ofString (source other : String) :
    Twins source other (ofString source) (ofString other) where
  coherent := .ofString source
  coherentTwin := .ofString other
  placed := .ofString source
  placedTwin := .ofString other
  same := rfl

theorem failed (twins : Twins source other lexer twin) : twin.failed = lexer.failed := by
  rw [twins.same]

theorem pending (twins : Twins source other lexer twin) : twin.pending = lexer.pending := by
  rw [twins.same]

theorem current (twins : Twins source other lexer twin) : twin.current = lexer.current := by
  rw [twins.same]

theorem produced (twins : Twins source other lexer twin) : twin.produced = lexer.produced := by
  rw [twins.same]

theorem done (twins : Twins source other lexer twin) : twin.done = lexer.done := by
  rw [twins.same]

/-- Twins stand at the same position: that of their current token, or of their error. -/
theorem position (twins : Twins source other lexer twin) : twin.position = lexer.position := by
  cases failed : lexer.failed with
  | none =>
    rw [twins.coherent.position failed, twins.coherentTwin.position (twins.failed.trans failed),
      twins.current]
  | some error =>
    rw [twins.placed error failed, twins.placedTwin error (twins.failed.trans failed)]

theorem shown (twins : Twins source other lexer twin) : twin.shown = lexer.shown := by
  rw [Lexer.shown, Lexer.shown, twins.produced, twins.pending, twins.position, twins.current]

/-- Twins consume alike. -/
theorem consume (results : Scanner.result source = Scanner.result other)
    (twins : Twins source other lexer twin) :
    twin.consume.1 = lexer.consume.1
      ∧ twin.consume.2 = { lexer.consume.2 with scanner := twin.consume.2.scanner } := by
  have scan := twins.coherent.scan_eq
  have scanTwin := twins.coherentTwin.scan_eq
  have same := twins.same
  generalize twin.scanner = scanner' at same
  subst same
  obtain ⟨scanner, pending, current, produced, failed, done⟩ := lexer
  cases failed with
  | some error => exact ⟨rfl, rfl⟩
  | none =>
    cases pending with
    | cons token pending => exact ⟨rfl, rfl⟩
    | nil =>
      have scan : scanner.scan = _ := scan rfl
      have scanTwin : scanner'.scan = _ := scanTwin rfl
      simp only [Lexer.consume, scan, scanTwin, results]
      cases Scanner.result other produced <;> exact ⟨rfl, rfl⟩

/-- Twins see the same ahead. -/
theorem peekMany (results : Scanner.result source = Scanner.result other)
    (twins : Twins source other lexer twin) (count : Nat) :
    twin.peekMany count = lexer.peekMany count := by
  cases failed : lexer.failed with
  | some error => rw [peekMany_failed failed, peekMany_failed (twins.failed.trans failed)]
  | none =>
    have running := twins.failed.trans failed
    rw [peekMany_running failed, peekMany_running running, twins.coherent.scanner failed,
      twins.coherentTwin.scanner running, Scanner.look_after, Scanner.look_after, twins.pending,
      twins.produced, results]

/-- Twins are iterated alike. -/
theorem next (results : Scanner.result source = Scanner.result other)
    (twins : Twins source other lexer twin) :
    twin.next.1 = lexer.next.1
      ∧ twin.next.2 = { lexer.next.2 with scanner := twin.next.2.scanner } := by
  obtain ⟨consumed, after⟩ := twins.consume results
  cases more : lexer.done with
  | true =>
    rw [next_of_done more, next_of_done (twins.done.trans more)]
    exact ⟨rfl, twins.same⟩
  | false =>
    rw [next_of_consume more, next_of_consume (twins.done.trans more), consumed, after]
    cases lexer.consume.1 with
    | error error => exact ⟨rfl, rfl⟩
    | ok token =>
      dsimp only
      cases token.isEnd <;> exact ⟨rfl, rfl⟩

/-- **Operations answer twins alike and keep them twins.** -/
theorem perform (results : Scanner.result source = Scanner.result other)
    (twins : Twins source other lexer twin) (operation : Operation) :
    (twin.perform operation).1 = (lexer.perform operation).1
      ∧ Twins source other (lexer.perform operation).2 (twin.perform operation).2 := by
  obtain ⟨consumed, after⟩ := twins.consume results
  have keeps : (twin.perform operation).2
      = { (lexer.perform operation).2 with scanner := (twin.perform operation).2.scanner } →
      Twins source other (lexer.perform operation).2 (twin.perform operation).2 := fun same =>
    ⟨(Coherent.kept source).perform twins.coherent operation,
      (Coherent.kept other).perform twins.coherentTwin operation,
      Placed.kept.perform twins.placed operation, Placed.kept.perform twins.placedTwin operation,
      same⟩
  cases operation with
  | consume => exact ⟨congrArg Answer.token consumed, keeps after⟩
  | consumeChecked =>
    refine ⟨?_, keeps after⟩
    show Answer.checked (twin.consume.1.map _) = Answer.checked (lexer.consume.1.map _)
    rw [consumed]
  | peek =>
    refine ⟨congrArg Answer.token ?_, keeps twins.same⟩
    rw [peek_eq, peek_eq, consumed]
  | peekMany count => exact ⟨congrArg Answer.tokens (twins.peekMany results count), keeps twins.same⟩
  | reconsume =>
    refine ⟨rfl, keeps ?_⟩
    show twin.reconsume = { lexer.reconsume with scanner := twin.reconsume.scanner }
    rw [twins.same]
    obtain ⟨scanner, pending, current, produced, failed, done⟩ := lexer
    cases current <;> rfl
  | next =>
    obtain ⟨answer, after⟩ := twins.next results
    exact ⟨congrArg Answer.item answer, keeps after⟩

/-- Runs of twins answer and show the same. -/
theorem trace (results : Scanner.result source = Scanner.result other)
    (twins : Twins source other lexer twin) (operations : List Operation) :
    twin.trace operations = lexer.trace operations := by
  induction operations generalizing lexer twin with
  | nil => rfl
  | cons operation operations ih =>
    obtain ⟨answer, after⟩ := twins.perform results operation
    rw [Lexer.trace, Lexer.trace, answer, after.shown, ih after]

end Twins

/-- A lexer shows nothing of its text but the results of scanning it. -/
theorem trace_congr {source other : String} (results : Scanner.result source = Scanner.result other)
    (operations : List Operation) :
    (ofString source).trace operations = (ofString other).trace operations :=
  ((Twins.ofString source other).trace results operations).symm

end Lexer

/-! ### Behind the end of the input -/

theorem Grammar.Skips.append_behind {chars blanks solid : List Char} {c : Char}
    (skips : Skips chars blanks (c :: solid)) (more : List Char) :
    Skips (chars ++ more) blanks (c :: (solid ++ more)) where
  whole := by rw [← skips.whole, List.append_assoc, List.cons_append]
  blank := skips.blank
  maximal := skips.maximal

/-- **What follows a character that ends the input does not change the lexing**, if that came to the end
of the input there or before. -/
theorem Lexing.append_behind_end {read chars : List Char} {outcome : Except LexError (List Token)}
    (lexing : Lexing read chars outcome) :
    ∀ tokens, outcome = .ok tokens → ∀ c, chars.getLast? = some c → isEndOfInput c = true →
      ∀ more, Lexing read (chars ++ more) outcome := by
  induction lexing with
  | exhausted skips =>
    intro tokens done c last ends more
    have whole := skips.whole
    rw [List.append_nil] at whole
    have blank := skips.blank c (whole ▸ List.mem_of_getLast? last)
    simp [(apart_of_endOfInput ends).1] at blank
  | sentinel skips ends =>
    intro tokens done c last _ more
    exact .sentinel (skips.append_behind more) ends
  | @token read chars blanks solid spelling rest d kind outcome skips goesOn lexeme sound later ih =>
    intro tokens done c last ends more
    have breaks := isBreak_of_endOfInput ends
    have lastSolid : (d :: solid).getLast? = some c := by
      rw [← skips.whole, List.getLast?_append] at last
      simpa using last
    have lastRest : rest.getLast? = some c := by
      rw [← lexeme.whole, List.getLast?_append] at lastSolid
      cases final : rest.getLast? with
      | some e => simpa [final] using lastSolid
      | none =>
        rw [final, Option.none_or] at lastSolid
        simp [lexeme.spells.ends lastSolid] at breaks
    cases outcome with
    | error error => cases done
    | ok others =>
      have reads := Reads.append ⟨lexeme, sound⟩ (sealed_of_last lastSolid breaks more)
      exact .token (skips.append_behind more) goesOn reads.lexeme reads.sound
        (ih others rfl c lastRest ends more)
  | fault skips faulty =>
    intro tokens done
    cases done

/-- What follows a character that ends the input is not read. -/
theorem tokenize_append_behind_end {front : String} {c : Char} {tokens : List Token}
    (ends : isEndOfInput c = true) (done : tokenize (front.push c) = .ok tokens) (back : String) :
    tokenize (front.push c ++ back) = .ok tokens := by
  have last : (front.push c).toList.getLast? = some c := by simp
  rw [← lexing_tokenize_iff, String.toList_append]
  exact (lexing_tokenize_iff.mpr done).append_behind_end tokens rfl c last ends back.toList

/-- **Texts that differ behind the end of the input only are not told apart.**  The text they share ends
in a character that ends the input, and its lexing succeeds: no string is open there, so that the lexing
stops at that character, if not at one before.  Whatever follows, a run gives the same answers, and
after each operation the lexer shows the same. -/
theorem Lexer.trace_behind_end {front : String} {c : Char} {tokens : List Token}
    (ends : isEndOfInput c = true) (done : tokenize (front.push c) = .ok tokens)
    (back other : String) (operations : List Operation) :
    (ofString (front.push c ++ back)).trace operations
      = (ofString (front.push c ++ other)).trace operations :=
  trace_congr (Scanner.result_congr (tokenize_append_behind_end ends done back)
    (tokenize_append_behind_end ends done other)) operations

/-- A quoted NUL ends nothing, U+0003 behind the quotes does, and a quote or an operator behind that is
not read. -/
theorem Lexer.trace_behind_end_quoted :
    isEndOfInput '\x03' = true
      ∧ tokenize ("'\x00'".push '\x03')
          = .ok [⟨.stringLiteral "\x00", ⟨3, 1, 3⟩⟩, ⟨.endOfInput '\x03', ⟨4, 1, 4⟩⟩]
      ∧ (ofString ("'\x00'".push '\x03' ++ "'")).trace
            [.peekMany 3, .consume, .reconsume, .next, .next, .peek]
          = (ofString ("'\x00'".push '\x03' ++ "+ 1")).trace
              [.peekMany 3, .consume, .reconsume, .next, .next, .peek] := by
  have done : tokenize ("'\x00'".push '\x03')
      = .ok [⟨.stringLiteral "\x00", ⟨3, 1, 3⟩⟩, ⟨.endOfInput '\x03', ⟨4, 1, 4⟩⟩] := by
    rw [tokenize_eq_take]
    decide +kernel
  exact ⟨by decide, done, trace_behind_end (by decide) done "'" "+ 1" _⟩

end ExprLexer
