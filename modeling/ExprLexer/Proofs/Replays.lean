import ExprLexer.Proofs.Lookahead
import Mathlib.Data.List.Basic

/-!
Which tokens a run hands out: each scanned token, in order, as often as it was asked for.

* `Lexer.handedOut`: the tokens that a run hands out;
* `Lexer.Replays`: they are `t₁` some times, then `t₂` some times, and so on;
* `Lexer.Replays.perform`: **every operation keeps that**;
* `Lexer.replays_reached`: what every reachable lexer shows of the tokens scanned and handed out.

Iteration takes the token that ends the input without handing it out.  That token is scanned again
and again, so that it may come once less than it was scanned.
-/

namespace ExprLexer

namespace Scanner

/-- The results of scanning a text, each as often as told. -/
def replayed (source : String) (copies : List Nat) : List (Except LexError Token) :=
  (copies.mapIdx fun scans count => List.replicate count (result source scans)).flatten

theorem replayed_concat (source : String) (copies : List Nat) (count : Nat) :
    replayed source (copies ++ [count])
      = replayed source copies ++ List.replicate count (result source copies.length) := by
  rw [replayed, List.mapIdx_concat, List.flatten_concat]
  rfl

/-- Some tokens are the first results of scanning a text, each as often as told and at least
once. -/
structure Repeats (source : String) (copies : List Nat) (tokens : List Token) : Prop where
  positive : ∀ count ∈ copies, 0 < count
  same : tokens.map .ok = replayed source copies

namespace Repeats

variable {source : String} {copies : List Nat} {tokens : List Token} {token : Token}

theorem nil (source : String) : Repeats source [] [] where
  positive := fun _ member => by cases member
  same := rfl

/-- The next result comes once. -/
theorem next (repeats : Repeats source copies tokens)
    (scanned : result source copies.length = .ok token) :
    Repeats source (copies ++ [1]) (tokens ++ [token]) where
  positive := List.forall_mem_append.mpr
    ⟨repeats.positive, List.forall_mem_singleton.mpr Nat.one_pos⟩
  same := by
    rw [replayed_concat, List.map_append, repeats.same, scanned]
    rfl

/-- The last result comes once more. -/
theorem again {front : List Nat} {count : Nat} (repeats : Repeats source (front ++ [count]) tokens)
    (scanned : result source front.length = .ok token) :
    Repeats source (front ++ [count + 1]) (tokens ++ [token]) where
  positive := List.forall_mem_append.mpr
    ⟨(List.forall_mem_append.mp repeats.positive).1,
      List.forall_mem_singleton.mpr (Nat.succ_pos count)⟩
  same := by
    rw [List.map_append, repeats.same, replayed_concat, replayed_concat, List.replicate_succ',
      List.append_assoc, scanned]
    rfl

end Repeats

end Scanner

namespace Lexer

/-! ### The tokens that a run hands out -/

/-- The tokens that a run hands out. -/
def handedOut (lexer : Lexer) : List Operation → List Token
  | [] => []
  | operation :: operations =>
    (operation.handedOut (lexer.perform operation).1).toList
      ++ handedOut (lexer.perform operation).2 operations

/-- An error takes no token. -/
theorem Consumed.frame {lexer after : Lexer} {error : LexError}
    (consumed : Consumed lexer (.error error) after) :
    after.produced = lexer.produced ∧ after.current = lexer.current ∧ after.done = lexer.done := by
  cases consumed <;> exact ⟨rfl, rfl, rfl⟩

/-! ### Each scanned token in order -/

/-- The tokens handed out are those scanned, each at least once; only the token that ends the input
may come once less than it was scanned, if iteration took it. -/
def Replays (source : String) (lexer : Lexer) (tokens : List Token) : Prop :=
  ∃ copies : List Nat, Scanner.Repeats source copies tokens
    ∧ (copies.length = lexer.produced
      ∨ copies.length + 1 = lexer.produced ∧ lexer.done = true
        ∧ ∃ token, lexer.current = some token ∧ token.isEnd = true)

namespace Replays

variable {source : String} {lexer after : Lexer} {tokens : List Token} {token : Token}

theorem start (source : String) : Replays source (ofString source) [] :=
  ⟨[], .nil source, Or.inl rfl⟩

theorem quiet (replays : Replays source lexer tokens) (produced : after.produced = lexer.produced)
    (current : after.current = lexer.current) (done : lexer.done = true → after.done = true) :
    Replays source after tokens := by
  obtain ⟨copies, repeats, level | ⟨short, ended, final⟩⟩ := replays
  · exact ⟨copies, repeats, Or.inl (level.trans produced.symm)⟩
  · exact ⟨copies, repeats, Or.inr ⟨short.trans produced.symm, done ended, current ▸ final⟩⟩

theorem handed (replays : Replays source lexer tokens) (coherent : Coherent source lexer)
    (consumed : Consumed lexer (.ok token) after) : Replays source after (tokens ++ [token]) := by
  obtain ⟨copies, repeats, level⟩ := replays
  cases consumed with
  | replayed running waiting =>
    have current := coherent.pending _ (waiting ▸ List.mem_cons_self)
    obtain ⟨last, produced, scanned⟩ := coherent.scanned_of_current current
    rcases level with level | ⟨short, -, -⟩
    · rcases List.eq_nil_or_concat' copies with rfl | ⟨front, count, rfl⟩
      · simp [produced] at level
      · -- the last scanned token comes once more
        have before : front.length = last := by
          rw [List.length_append, produced] at level
          exact Nat.succ.inj level
        refine ⟨front ++ [count + 1], repeats.again (before ▸ scanned), Or.inl ?_⟩
        rw [← level, List.length_append, List.length_append]
        rfl
    · -- iteration took the token, and now it is handed out after all
      have before : copies.length = last := Nat.succ.inj (short.trans produced)
      refine ⟨copies ++ [1], repeats.next (before ▸ scanned), Or.inl ?_⟩
      rw [List.length_append]
      exact short
  | scanned running empty scanned =>
    rw [coherent.scan_eq running] at scanned
    have scanned : Scanner.result source lexer.produced = .ok token := scanned
    rcases level with level | ⟨short, ended, last, current, ends⟩
    · refine ⟨copies ++ [1], repeats.next (level ▸ scanned), Or.inl ?_⟩
      rw [List.length_append, level]
      rfl
    · -- behind the end of the input, the scan gives the token that iteration took
      obtain ⟨count, produced, final⟩ := coherent.scanned_of_current current
      have before : copies.length = count := Nat.succ.inj (short.trans produced)
      have same := Scanner.result_succ_of_isEnd final ends
      rw [← produced, scanned] at same
      obtain rfl := Except.ok.inj same
      refine ⟨copies ++ [1], repeats.next (before ▸ final), Or.inr ⟨?_, ended, _, rfl, ends⟩⟩
      rw [List.length_append]
      exact congrArg (· + 1) short

theorem swallowed (replays : Replays source lexer tokens) (more : lexer.done = false)
    (ends : token.isEnd = true) (consumed : Consumed lexer (.ok token) after) :
    Replays source { after with done := true } tokens := by
  obtain ⟨copies, repeats, level | ⟨-, ended, -⟩⟩ := replays
  · cases consumed with
    | replayed running waiting => exact ⟨copies, repeats, Or.inl level⟩
    | scanned running empty scanned =>
      exact ⟨copies, repeats, Or.inr ⟨congrArg (· + 1) level, rfl, token, rfl, ends⟩⟩
  · simp [more] at ended

/-- **Every operation goes on with the scanned tokens in order.** -/
theorem perform (replays : Replays source lexer tokens) (coherent : Coherent source lexer)
    (operation : Operation) :
    Replays source (lexer.perform operation).2
      (tokens ++ (operation.handedOut (lexer.perform operation).1).toList) := by
  have performed := lexer.performed operation
  generalize operation.handedOut (lexer.perform operation).1 = handed at performed ⊢
  generalize (lexer.perform operation).2 = after at performed ⊢
  cases performed with
  | idle =>
    rw [Option.toList_none, List.append_nil]
    exact replays
  | reconsumed current =>
    rw [Option.toList_none, List.append_nil]
    exact replays.quiet rfl rfl id
  | handed consumed => exact replays.handed coherent consumed
  | failed consumed =>
    obtain ⟨produced, current, done⟩ := consumed.frame
    rw [Option.toList_none, List.append_nil]
    exact replays.quiet produced current done.trans
  | swallowed more ends consumed =>
    rw [Option.toList_none, List.append_nil]
    exact replays.swallowed more ends consumed
  | stopped consumed =>
    obtain ⟨produced, current, -⟩ := consumed.frame
    rw [Option.toList_none, List.append_nil]
    exact replays.quiet produced current fun _ => rfl

theorem run (replays : Replays source lexer tokens) (coherent : Coherent source lexer)
    (operations : List Operation) :
    Replays source (lexer.run operations).2 (tokens ++ lexer.handedOut operations) := by
  induction operations generalizing lexer tokens with
  | nil =>
    rw [Lexer.handedOut, List.append_nil]
    exact replays
  | cons operation operations ih =>
    rw [Lexer.handedOut, ← List.append_assoc]
    exact ih (replays.perform coherent operation) ((Coherent.kept source).perform coherent operation)

end Replays

/-! ### Behind the end of the input -/

/-- Once the end of the input was handed out, a run stays behind it. -/
theorem atEnd_run {source : String} {lexer : Lexer} (coherent : Coherent source lexer)
    (operations : List Operation) {token : Token} (ends : token.isEnd = true)
    (handed : token ∈ lexer.handedOut operations) : AtEnd token (lexer.run operations).2 := by
  induction operations generalizing lexer with
  | nil => cases handed
  | cons operation operations ih =>
    have kept := (Coherent.kept source).perform coherent operation
    rcases List.mem_append.mp handed with now | later
    · have here : AtEnd token (lexer.perform operation).2 := by
        have performed := lexer.performed operation
        generalize operation.handedOut (lexer.perform operation).1 = handed at performed now
        generalize (lexer.perform operation).2 = after at performed kept ⊢
        cases performed with
        | handed consumed =>
          rw [Option.toList_some, List.mem_singleton] at now
          subst now
          exact kept.atEnd consumed.running consumed.current ends
        | idle => cases now
        | reconsumed current => cases now
        | failed consumed => cases now
        | swallowed more ends consumed => cases now
        | stopped consumed => cases now
      exact (AtEnd.kept token).run operations here
    · exact ih kept later

/-! ### Reachable lexers -/

theorem Coherent.position {source : String} {lexer : Lexer} (coherent : Coherent source lexer)
    (running : lexer.failed = none) :
    lexer.position = lexer.current.elim Pos.start Token.pos := by
  rw [Lexer.position, coherent.scanner running]
  cases produced : lexer.produced with
  | zero =>
    rw [coherent.fresh produced]
    rfl
  | succ count =>
    obtain ⟨token, scanned, current⟩ := coherent.current count produced
    rw [current]
    exact Scanner.position_after_succ scanned

/-- **Tokens are handed out in the order they were scanned, none is skipped and none comes back
behind a later one.**  The current token is the last one scanned, only copies of it are pending, and
unless an error stopped the lexer it stands at that token.  Once the end of the input was handed
out, nothing else comes. -/
theorem replays_reached {source : String} {operations : List Operation} {lexer : Lexer}
    (stands : reached source operations = lexer) :
    (lexer.current = none ↔ lexer.produced = 0)
    ∧ (∀ count, lexer.produced = count + 1 →
        ∃ token, Scanner.result source count = .ok token ∧ lexer.current = some token)
    ∧ (∀ token ∈ lexer.pending, lexer.current = some token)
    ∧ (lexer.failed = none → lexer.position = lexer.current.elim Pos.start Token.pos)
    ∧ Replays source lexer ((ofString source).handedOut operations)
    ∧ (∀ token ∈ (ofString source).handedOut operations, token.isEnd = true → ∀ later,
        (lexer.run later).2.consume.1 = .ok token
        ∧ (lexer.run later).2.peek = .ok token
        ∧ ∀ count, (lexer.run later).2.peekMany count = .ok (List.replicate count token)) := by
  have coherent : Coherent source lexer := stands ▸ coherent_reached source operations
  refine ⟨⟨fun none => ?_, coherent.fresh⟩, coherent.current, coherent.pending,
    coherent.position, ?_, fun token handed ends later => ?_⟩
  · cases produced : lexer.produced with
    | zero => rfl
    | succ count =>
      obtain ⟨token, -, current⟩ := coherent.current count produced
      simp [current] at none
  · subst stands
    exact (Replays.start source).run (.ofString source) operations
  · have atEnd : AtEnd token lexer :=
      stands ▸ atEnd_run (.ofString source) operations ends handed
    have further := (AtEnd.kept token).run later atEnd
    obtain ⟨consumed, -⟩ := further.consume (lexer.run later).2.consumed
    exact ⟨consumed, (peek_eq _).trans consumed, further.peekMany⟩

/-- A token handed back, and the end of the input that iteration takes and a replay hands out. -/
theorem replays_reached_end :
    (ofString "a").handedOut [.consume, .reconsume, .next, .next, .reconsume, .consume]
        = [⟨.identifier "a", ⟨1, 1, 1⟩⟩, ⟨.identifier "a", ⟨1, 1, 1⟩⟩,
            ⟨.endOfInput '\x00', ⟨1, 1, 1⟩⟩]
      ∧ (reached "a" [.consume, .reconsume, .next, .next, .reconsume, .consume]).position
          = ⟨1, 1, 1⟩
      ∧ ((reached "a" [.consume, .reconsume, .next, .next, .reconsume, .consume]).run
            [.reconsume, .consume]).2.peekMany 2
          = .ok [⟨.endOfInput '\x00', ⟨1, 1, 1⟩⟩, ⟨.endOfInput '\x00', ⟨1, 1, 1⟩⟩] := by
  have handed :
      (ofString "a").handedOut [.consume, .reconsume, .next, .next, .reconsume, .consume]
        = [⟨.identifier "a", ⟨1, 1, 1⟩⟩, ⟨.identifier "a", ⟨1, 1, 1⟩⟩,
            ⟨.endOfInput '\x00', ⟨1, 1, 1⟩⟩] := by
    decide +kernel
  obtain ⟨-, -, -, position, -, final⟩ := @replays_reached "a"
    [.consume, .reconsume, .next, .next, .reconsume, .consume] _ rfl
  refine ⟨handed, ?_, ?_⟩
  · rw [position (by decide +kernel)]
    decide +kernel
  · exact (final ⟨.endOfInput '\x00', ⟨1, 1, 1⟩⟩ (by rw [handed]; simp) rfl _).2.2 2

end Lexer

end ExprLexer
