import ExprLexer.Proofs.FirstFault
import ExprLexer.Proofs.Replays

/-!
What ends a lexer for good: an error that consuming met, and the end of iteration.

* `Lexer.Stepped`: what one step of iteration can do;
* `Lexer.kept_done`: iteration that ended stays ended;
* `Lexer.Stopped.kept`: **a lexer that an error stopped stays so**, at the error, with the token and
  the count it had;
* `Lexer.refusals_eq_nil_iff`: a lexer failed exactly if consuming gave an error;
* `Lexer.Coherent.delivers`: **an error seen from afar keeps no token back**;
* `Lexer.finality_reached`: what is final in every lexer that operations can reach.

Only consuming fails a lexer, and it does so without touching the current token or the count.
Handing back and looking ahead find the lexer failed and leave it so, whatever is pending.
-/

namespace ExprLexer

namespace Scanner

/-- A scan that fails stops at its error. -/
theorem position_of_error {scanner : Scanner} {error : LexError}
    (failed : scanner.scan.1 = .error error) : scanner.scan.2.position = error.pos := by
  rcases scan_cases scanner with ⟨c, pos, -, scanned⟩ | ⟨token, state, scanned, -⟩ |
    ⟨other, state, scanned, stands⟩
  · rw [scanned] at failed
    cases failed
  · rw [scanned] at failed
    cases failed
  · rw [scanned] at failed ⊢
    obtain rfl := Except.error.inj failed
    exact stands

end Scanner

namespace Lexer

/-! ### The end of iteration -/

/-- What iteration can yield, and the lexer it leaves. -/
inductive Stepped (lexer : Lexer) : Option (Except LexError Token) → Lexer → Prop
  | idle (finished : lexer.done = true) : Stepped lexer none lexer
  | ended {token : Token} {after : Lexer} (more : lexer.done = false) (ends : token.isEnd = true)
      (consumed : Consumed lexer (.ok token) after) :
      Stepped lexer none { after with done := true }
  | yielded {token : Token} {after : Lexer} (more : lexer.done = false)
      (goesOn : token.isEnd = false) (consumed : Consumed lexer (.ok token) after) :
      Stepped lexer (some (.ok token)) after
  | stopped {error : LexError} {after : Lexer} (more : lexer.done = false)
      (consumed : Consumed lexer (.error error) after) :
      Stepped lexer (some (.error error)) { after with done := true }

theorem stepped (lexer : Lexer) : Stepped lexer lexer.next.1 lexer.next.2 := by
  have consumed := lexer.consumed
  unfold Lexer.next
  cases more : lexer.done with
  | true => exact .idle more
  | false =>
    generalize lexer.consume = outcome at consumed ⊢
    obtain ⟨result, after⟩ := outcome
    cases result with
    | error error => exact .stopped more consumed
    | ok token =>
      cases ends : token.isEnd with
      | true =>
        simp only [ends]
        exact .ended more ends consumed
      | false =>
        simp only [ends]
        exact .yielded more ends consumed

theorem Consumed.done {lexer after : Lexer} {outcome : Except LexError Token}
    (consumed : Consumed lexer outcome after) : after.done = lexer.done := by
  cases consumed <;> rfl

/-- Iteration that ended stays ended. -/
theorem kept_done : Kept fun lexer => lexer.done = true where
  consume := fun finished consumed => consumed.done.trans finished
  finish := fun _ => rfl
  reconsume := fun finished _ => finished

theorem next_of_done {lexer : Lexer} (finished : lexer.done = true) : lexer.next = (none, lexer) := by
  rw [Lexer.next, if_pos finished]

/-- A step that yields no token is the last one. -/
theorem done_of_next {lexer : Lexer} (last : ∀ token, lexer.next.1 ≠ some (.ok token)) :
    lexer.next.2.done = true := by
  have stepped := lexer.stepped
  generalize lexer.next.1 = item at stepped last
  generalize lexer.next.2 = after at stepped ⊢
  cases stepped with
  | idle finished => exact finished
  | ended more ends consumed => rfl
  | yielded more goesOn consumed => exact absurd rfl (last _)
  | stopped more consumed => rfl

/-- Whether iteration yielded an error. -/
def Answer.yieldsError : Answer → Bool
  | .item (some (.error _)) => true
  | _ => false

theorem yieldsError_of_done {lexer : Lexer} (finished : lexer.done = true) (operation : Operation) :
    (lexer.perform operation).1.yieldsError = false := by
  cases operation with
  | next =>
    have none : (lexer.perform .next).1 = .item none := by
      rw [Lexer.perform, next_of_done finished]
    rw [none]
    rfl
  | _ => rfl

theorem countP_yieldsError_of_done {lexer : Lexer} (finished : lexer.done = true)
    (operations : List Operation) : (lexer.run operations).1.countP Answer.yieldsError = 0 := by
  induction operations generalizing lexer with
  | nil => rfl
  | cons operation operations ih =>
    have later := ih (kept_done.perform finished operation)
    rw [Lexer.run, List.countP_cons_of_neg (by simp [yieldsError_of_done finished])]
    exact later

/-- Iteration yields at most one error. -/
theorem countP_yieldsError_le (lexer : Lexer) (operations : List Operation) :
    (lexer.run operations).1.countP Answer.yieldsError ≤ 1 := by
  induction operations generalizing lexer with
  | nil => exact Nat.zero_le 1
  | cons operation operations ih =>
    rw [Lexer.run]
    cases yields : (lexer.perform operation).1.yieldsError with
    | false =>
      rw [List.countP_cons_of_neg (by simp [yields])]
      exact ih (lexer.perform operation).2
    | true =>
      -- the step that yields an error ends the iteration, so that no other one follows
      have finished : (lexer.perform operation).2.done = true := by
        cases operation with
        | next =>
          refine done_of_next fun token same => ?_
          have item : (lexer.perform .next).1 = .item (some (.ok token)) := congrArg Answer.item same
          rw [item] at yields
          cases yields
        | _ => cases yields
      rw [List.countP_cons_of_pos yields]
      exact Nat.le_of_eq (congrArg (· + 1) (countP_yieldsError_of_done finished operations))

/-! ### An error that consuming met -/

/-- A lexer that failed stands at its error. -/
def Placed (lexer : Lexer) : Prop := ∀ error, lexer.failed = some error → lexer.position = error.pos

/-- The lexer that an error stopped, with the token and the count it had before. -/
structure Stopped (before : Lexer) (error : LexError) (lexer : Lexer) : Prop where
  failed : lexer.failed = some error
  current : lexer.current = before.current
  produced : lexer.produced = before.produced
  position : lexer.position = error.pos

namespace Placed

theorem ofString (source : String) : Placed (ofString source) := fun _ failed => by cases failed

theorem kept : Kept Placed where
  consume := fun placed consumed => by
    cases consumed with
    | failed stopped => exact placed
    | replayed running waiting => exact placed
    | scanned running empty scanned =>
      intro error failed
      cases running.symm.trans failed
    | stopped running empty scanned =>
      intro error failed
      obtain rfl := Option.some.inj failed
      exact Scanner.position_of_error scanned
  finish := fun placed => placed
  reconsume := fun placed _ => placed

end Placed

namespace Stopped

variable {before lexer after : Lexer} {error : LexError}

theorem of_consumed (placed : Placed before) (consumed : Consumed before (.error error) after) :
    Stopped before error after := by
  cases consumed with
  | failed stopped => exact ⟨stopped, rfl, rfl, placed error stopped⟩
  | stopped running empty scanned => exact ⟨rfl, rfl, rfl, Scanner.position_of_error scanned⟩

theorem finish (stopped : Stopped before error lexer) :
    Stopped before error { lexer with done := true } :=
  ⟨stopped.failed, stopped.current, stopped.produced, stopped.position⟩

theorem consume {outcome : Except LexError Token} (stopped : Stopped before error lexer)
    (consumed : Consumed lexer outcome after) :
    outcome = .error error ∧ Stopped before error after := by
  cases consumed with
  | failed same =>
    obtain rfl := Option.some.inj (same.symm.trans stopped.failed)
    exact ⟨rfl, stopped⟩
  | replayed running waiting => cases running.symm.trans stopped.failed
  | scanned running empty scanned => cases running.symm.trans stopped.failed
  | stopped running empty scanned => cases running.symm.trans stopped.failed

/-- **A lexer that an error stopped stays so.** -/
theorem kept (before : Lexer) (error : LexError) : Kept (Stopped before error) where
  consume := fun stopped consumed => (stopped.consume consumed).2
  finish := finish
  reconsume := fun stopped _ =>
    ⟨stopped.failed, stopped.current, stopped.produced, stopped.position⟩

end Stopped

/-! ### The errors that consuming gives -/

/-- Whether an operation takes a token. -/
def Operation.consumes : Operation → Bool
  | .consume | .consumeChecked | .next => true
  | .peek | .peekMany _ | .reconsume => false

/-- The error that an operation answers in place of the token it would take. -/
def Operation.refused (operation : Operation) (answer : Answer) : Option LexError :=
  if operation.consumes then answer.error? else none

/-- The errors that a run answers in place of tokens it would take. -/
def refusals (lexer : Lexer) : List Operation → List LexError
  | [] => []
  | operation :: operations =>
    (operation.refused (lexer.perform operation).1).toList
      ++ refusals (lexer.perform operation).2 operations

/-- A refused token is an error that stops the lexer. -/
theorem Placed.stopped_of_refused {lexer : Lexer} {operation : Operation} {error : LexError}
    (placed : Placed lexer) (refused : operation.refused (lexer.perform operation).1 = some error) :
    Stopped lexer error (lexer.perform operation).2 := by
  have consumed := lexer.consumed
  cases operation with
  | consume =>
    rw [Answer.error?_token.mp refused] at consumed
    exact .of_consumed placed consumed
  | consumeChecked =>
    have failed : lexer.consume.1 = .error error := Answer.error?_checked.mp refused
    rw [failed] at consumed
    exact .of_consumed placed consumed
  | peek => cases refused
  | peekMany count => cases refused
  | reconsume => cases refused
  | next =>
    have yields : lexer.next.1 = some (.error error) := Answer.error?_item.mp refused
    have stepped := lexer.stepped
    rw [yields] at stepped
    show Stopped lexer error lexer.next.2
    generalize lexer.next.2 = after at stepped ⊢
    cases stepped with
    | stopped more consumed => exact (Stopped.of_consumed placed consumed).finish

theorem Consumed.running_of_ne {lexer after : Lexer} {outcome : Except LexError Token}
    (consumed : Consumed lexer outcome after) (granted : ∀ error, outcome ≠ .error error) :
    after.failed = none := by
  cases outcome with
  | error error => exact absurd rfl (granted error)
  | ok token => exact consumed.running

/-- Without a refusal a lexer runs on. -/
theorem running_of_not_refused {lexer : Lexer} {operation : Operation}
    (running : lexer.failed = none)
    (granted : operation.refused (lexer.perform operation).1 = none) :
    (lexer.perform operation).2.failed = none := by
  cases operation with
  | consume =>
    refine lexer.consumed.running_of_ne fun error failed => ?_
    cases granted.symm.trans (Answer.error?_token.mpr failed)
  | consumeChecked =>
    refine lexer.consumed.running_of_ne fun error failed => ?_
    cases granted.symm.trans (Answer.error?_checked.mpr failed)
  | peek => exact running
  | peekMany count => exact running
  | reconsume =>
    show lexer.reconsume.failed = none
    unfold Lexer.reconsume
    split <;> exact running
  | next =>
    have granted : Answer.error? (.item lexer.next.1) = none := granted
    have stepped := lexer.stepped
    show lexer.next.2.failed = none
    generalize lexer.next.1 = item at stepped granted
    generalize lexer.next.2 = after at stepped ⊢
    cases stepped with
    | idle finished => exact running
    | ended more ends consumed => exact consumed.running
    | yielded more goesOn consumed => exact consumed.running
    | stopped more consumed => cases granted

/-- A lexer failed exactly if consuming gave an error. -/
theorem refusals_eq_nil_iff {lexer : Lexer} (placed : Placed lexer) (running : lexer.failed = none)
    (operations : List Operation) :
    lexer.refusals operations = [] ↔ (lexer.run operations).2.failed = none := by
  induction operations generalizing lexer with
  | nil => exact iff_of_true rfl running
  | cons operation operations ih =>
    rw [refusals, Lexer.run]
    have placedAfter := Placed.kept.perform placed operation
    cases refused : operation.refused (lexer.perform operation).1 with
    | none => exact ih placedAfter (running_of_not_refused running refused)
    | some error =>
      have stopped := (Stopped.kept lexer error).run operations (placed.stopped_of_refused refused)
      have failed : ((lexer.perform operation).2.run operations).2.failed = some error :=
        stopped.failed
      simp [failed]

/-! ### An error seen from afar -/

/-- **An error seen from afar keeps no token back**: first the pending tokens come, then the scanned
ones before the error, and then the error. -/
theorem Coherent.delivers {source : String} {lexer : Lexer} {error : LexError}
    (coherent : Coherent source lexer) (running : lexer.failed = none) {count : Nat}
    (seen : lexer.peekMany count = .error error) :
    ∃ (tokens : List Token) (scans : Nat),
      tokens.map .ok
          = lexer.pending.map .ok
              ++ (List.range' lexer.produced scans).map (Scanner.result source)
        ∧ Scanner.result source (lexer.produced + scans) = .error error
        ∧ lexer.consumptions (tokens.length + 1)
          = (tokens.map fun token => .token (.ok token)) ++ [.token (.error error)] := by
  induction count generalizing lexer with
  | zero =>
    rw [peekMany_zero running] at seen
    cases seen
  | succ count ih =>
    have consumed := lexer.consumed
    rw [peekMany_succ] at seen
    generalize outcome : lexer.consume.1 = result at consumed seen
    cases result with
    | error first =>
      obtain rfl := Except.error.inj seen
      have answers : lexer.consumptions 1 = [.token (.error first)] := by
        rw [consumptions_succ, outcome]
        rfl
      generalize lexer.consume.2 = after at consumed
      cases consumed with
      | failed stopped => cases running.symm.trans stopped
      | stopped running empty scanned =>
        rw [coherent.scan_eq running] at scanned
        exact ⟨[], 0, by rw [empty]; rfl, scanned, answers⟩
    | ok token =>
      have behind : lexer.consume.2.peekMany count = .error error := map_eq_error_iff.mp seen
      obtain ⟨tokens, scans, same, failed, answers⟩ :=
        ih (coherent.consume consumed) consumed.running behind
      have further : lexer.consumptions (tokens.length + 1 + 1)
          = .token (.ok token)
            :: ((tokens.map fun token => .token (.ok token)) ++ [.token (.error error)]) := by
        rw [consumptions_succ, outcome, answers]
      generalize lexer.consume.2 = after at consumed same failed
      cases consumed with
      | @replayed _ pending running waiting =>
        refine ⟨token :: tokens, scans, ?_, failed, further⟩
        rw [List.map_cons, same, waiting]
        rfl
      | scanned running empty scanned =>
        rw [coherent.scan_eq running] at scanned
        refine ⟨token :: tokens, scans + 1, ?_, ?_, further⟩
        · rw [List.map_cons, same, empty, List.range'_succ, List.map_cons]
          simp only [List.map_nil, List.nil_append]
          exact congrArg (· :: _) scanned.symm
        · rw [← failed]
          congr 1
          dsimp only
          omega

/-! ### Reachable lexers -/

/-- **What is final.**  Once consuming gave an error, every later answer is that error, whatever is
pending, and the lexer stays at the error with the count and the current token from before.  An
error that was only looked at keeps no token back.  Iteration that yields no token has ended, so
that it yields at most one error. -/
theorem finality_reached {source : String} {operations : List Operation} {lexer : Lexer}
    (stands : reached source operations = lexer) :
    (∀ call error, call.refused (lexer.perform call).1 = some error →
      ∀ later final, ((lexer.perform call).2.run later).2 = final →
        final.consume.1 = .error error ∧ final.consumeChecked.1 = .error error
        ∧ final.peek = .error error ∧ (∀ count, final.peekMany count = .error error)
        ∧ final.produced = lexer.produced ∧ final.current = lexer.current
        ∧ final.position = error.pos)
    ∧ ((ofString source).refusals operations = [] →
        ∀ look error, look.consumes = false → (lexer.perform look).1.error? = some error →
          ∃ (tokens : List Token) (scans : Nat),
            tokens.map .ok
                = lexer.pending.map .ok
                    ++ (List.range' lexer.produced scans).map (Scanner.result source)
              ∧ Scanner.result source (lexer.produced + scans) = .error error
              ∧ (lexer.perform look).2.consumptions (tokens.length + 1)
                = (tokens.map fun token => .token (.ok token)) ++ [.token (.error error)])
    ∧ ((lexer.next.1 = none ∨ ∃ error, lexer.next.1 = some (.error error)) →
        ∀ later, (lexer.next.2.run later).2.next.1 = none)
    ∧ ((ofString source).run operations).1.countP Answer.yieldsError ≤ 1 := by
  have placed : Placed lexer := stands ▸ Placed.kept.run operations (.ofString source)
  have coherent : Coherent source lexer := stands ▸ coherent_reached source operations
  refine ⟨fun call error refused later final ends => ?_, fun granted look error looks seen => ?_,
    fun last later => ?_, countP_yieldsError_le _ operations⟩
  · have stopped : Stopped lexer error final :=
      ends ▸ (Stopped.kept lexer error).run later (placed.stopped_of_refused refused)
    have consumed : final.consume = (.error error, final) := consume_failed stopped.failed
    refine ⟨congrArg Prod.fst consumed, ?_, ?_, peekMany_failed stopped.failed, stopped.produced,
      stopped.current, stopped.position⟩
    · rw [Lexer.consumeChecked, consumed]
      rfl
    · rw [peek_eq, consumed]
  · have running : lexer.failed = none :=
      stands ▸ (refusals_eq_nil_iff (.ofString source) rfl operations).mp granted
    cases look with
    | peek =>
      have seen : lexer.peek = .error error := Answer.error?_token.mp seen
      have one : lexer.peekMany 1 = .error error := by
        rw [peekMany_succ, ← peek_eq, seen]
        rfl
      exact coherent.delivers running one
    | peekMany count => exact coherent.delivers running (Answer.error?_tokens.mp seen)
    | reconsume => cases seen
    | consume => cases looks
    | consumeChecked => cases looks
    | next => cases looks
  · have finished : lexer.next.2.done = true := by
      refine done_of_next fun token same => ?_
      rcases last with none | ⟨error, failed⟩
      · rw [none] at same
        cases same
      · rw [failed] at same
        cases same
    rw [next_of_done (kept_done.run later finished)]

/-- Iteration meets a string that is never closed; a token handed back behind that does not come
again. -/
theorem finality_reached_unclosed :
    (reached "a 'b" [.consume]).next.1 = some (.error ⟨.unterminatedString '\'', ⟨4, 1, 4⟩⟩)
      ∧ (((reached "a 'b" [.consume]).next.2.run [.reconsume, .peek]).2.consume.1
            = .error ⟨.unterminatedString '\'', ⟨4, 1, 4⟩⟩
          ∧ ((reached "a 'b" [.consume]).next.2.run [.reconsume, .peek]).2.produced = 1
          ∧ ((reached "a 'b" [.consume]).next.2.run [.reconsume, .peek]).2.next.1 = none)
      ∧ ∃ (tokens : List Token) (scans : Nat),
          tokens.map .ok = (List.range' 0 scans).map (Scanner.result "a 'b")
          ∧ Scanner.result "a 'b" (0 + scans) = .error ⟨.unterminatedString '\'', ⟨4, 1, 4⟩⟩
          ∧ (reached "a 'b" []).consumptions (tokens.length + 1)
            = (tokens.map fun token => .token (.ok token))
              ++ [.token (.error ⟨.unterminatedString '\'', ⟨4, 1, 4⟩⟩)] := by
  have yields : (reached "a 'b" [.consume]).next.1
      = some (.error ⟨.unterminatedString '\'', ⟨4, 1, 4⟩⟩) := by decide +kernel
  have ahead : (reached "a 'b" []).peekMany 3 = .error ⟨.unterminatedString '\'', ⟨4, 1, 4⟩⟩ := by
    decide +kernel
  obtain ⟨stops, -, ends, -⟩ := @finality_reached "a 'b" [.consume] _ rfl
  obtain ⟨-, delivers, -, -⟩ := @finality_reached "a 'b" [] _ rfl
  obtain ⟨consumed, -, -, -, produced, -⟩ := stops .next ⟨.unterminatedString '\'', ⟨4, 1, 4⟩⟩
    (Answer.error?_item.mpr yields) [.reconsume, .peek] _ rfl
  exact ⟨yields, ⟨consumed, produced, ends (Or.inr ⟨_, yields⟩) _⟩,
    delivers rfl (.peekMany 3) _ rfl (Answer.error?_tokens.mpr ahead)⟩

end Lexer

end ExprLexer
