import ExprLexer.Lexer
import Mathlib.Data.List.Induction

/-!
Runs of a lexer: what every reachable lexer keeps.

* `Scanner.result`: the results of scanning a text over and over, `t₁, t₂, …`;
* `Scanner.result_succ_of_isEnd`: behind a token that ends the input comes that token again;
* `Lexer.Consumed`: what one `consume` can do;
* `Lexer.Performed`: what one operation can do;
* `Lexer.Kept.run`: what each operation keeps, every run keeps;
* `Lexer.Coherent`: **the invariant**: the current token is the last one scanned, and only copies of
  it are pending;
* `Lexer.coherent_reached`: every lexer that operations can reach keeps it.

`Coherent` is kept by each operation because a token handed back is the current one, so that a
replay changes neither the current token nor the scanner.
-/

namespace ExprLexer

/-! ### Scanning over and over -/

namespace Scanner

/-- The scanner of a text after some scans. -/
def after (source : String) : Nat → Scanner
  | 0 => ofString source
  | count + 1 => (after source count).scan.2

/-- The result of the scan that `count` scans come before. -/
def result (source : String) (count : Nat) : Except LexError Token := (after source count).scan.1

/-- A scan repeats the end of the input, reads a token, or fails. -/
theorem scan_cases (scanner : Scanner) :
    (∃ c pos, scanner.ended = some (c, pos)
        ∧ scanner.scan = (.ok ⟨.endOfInput c, pos⟩, scanner))
      ∨ (∃ token state, scanner.scan = (.ok token, behind token state)
        ∧ state.mark.pos = token.pos)
      ∨ (∃ error state, scanner.scan = (.error error, ⟨state, none⟩)
        ∧ state.mark.pos = error.pos) := by
  unfold scan
  cases ended : scanner.ended with
  | some final => exact Or.inl ⟨final.1, final.2, rfl, rfl⟩
  | none =>
    right
    simp only [scanFrom]
    generalize scanner.state.mark.advance _ = mark
    generalize scanner.state.rest.dropWhile _ = chars
    cases chars with
    | nil => exact Or.inl ⟨⟨.endOfInput endOfText, mark.pos⟩, ⟨[], mark⟩, rfl, rfl⟩
    | cons c rest =>
      rw [scanHere]
      cases Lexeme.read c rest with
      | ok lexeme => exact Or.inl ⟨_, ⟨lexeme.rest, mark.advance lexeme.spelling⟩, rfl, rfl⟩
      | error fault => exact Or.inr ⟨_, ⟨fault.rest, mark.advance fault.read⟩, rfl, rfl⟩

theorem behind_ended {token : Token} {state : ReadState} {c : Char} {pos : Pos} :
    (behind token state).ended = some (c, pos) ↔ token = ⟨.endOfInput c, pos⟩ := by
  obtain ⟨kind, place⟩ := token
  cases kind <;> simp [behind]

theorem ended_scan {scanner : Scanner} {c : Char} {pos : Pos} :
    scanner.scan.2.ended = some (c, pos) ↔ scanner.scan.1 = .ok ⟨.endOfInput c, pos⟩ := by
  rcases scan_cases scanner with ⟨d, place, ended, scanned⟩ | ⟨token, state, scanned, -⟩ |
    ⟨error, state, scanned, -⟩
  · rw [scanned]
    simp [ended]
  · rw [scanned, behind_ended]
    simp
  · rw [scanned]
    simp

/-- Behind a token that ends the input every scan gives that token and leaves the scanner. -/
theorem scan_of_isEnd {scanner : Scanner} {token : Token} (scanned : scanner.scan.1 = .ok token)
    (ends : token.isEnd = true) : scanner.scan.2.scan = (.ok token, scanner.scan.2) := by
  obtain ⟨kind, pos⟩ := token
  cases kind with
  | endOfInput c => rw [scan, ended_scan.mpr scanned]
  | _ => cases ends

/-- A scanner whose input ended stands where it ended. -/
def Settled (scanner : Scanner) : Prop :=
  ∀ c pos, scanner.ended = some (c, pos) → scanner.position = pos

/-- A scanner comes to the position of the token it reads. -/
theorem position_scan {scanner : Scanner} {token : Token} (settled : scanner.Settled)
    (done : scanner.scan.1 = .ok token) : scanner.scan.2.position = token.pos := by
  rcases scan_cases scanner with ⟨c, pos, ended, scanned⟩ | ⟨read, state, scanned, stands⟩ |
    ⟨error, state, scanned, -⟩
  · rw [scanned] at done ⊢
    obtain rfl := Except.ok.inj done
    exact settled c pos ended
  · rw [scanned] at done ⊢
    obtain rfl := Except.ok.inj done
    rw [position, behind_state]
    exact stands
  · rw [scanned] at done
    cases done

theorem settled_scan {scanner : Scanner} (settled : scanner.Settled) : scanner.scan.2.Settled :=
  fun _ _ ended => position_scan settled (ended_scan.mp ended)

theorem settled_after (source : String) (count : Nat) : (after source count).Settled := by
  induction count with
  | zero => exact fun c pos ended => by cases ended
  | succ count ih => exact settled_scan ih

/-- **Behind a token that ends the input comes that token again.** -/
theorem result_succ_of_isEnd {source : String} {count : Nat} {token : Token}
    (scanned : result source count = .ok token) (ends : token.isEnd = true) :
    result source (count + 1) = .ok token :=
  congrArg Prod.fst (scan_of_isEnd scanned ends)

theorem position_after_succ {source : String} {count : Nat} {token : Token}
    (scanned : result source count = .ok token) :
    (after source (count + 1)).position = token.pos :=
  position_scan (settled_after source count) scanned

end Scanner

namespace Lexer

/-! ### One operation -/

/-- What `consume` can answer, and the lexer it leaves. -/
inductive Consumed (lexer : Lexer) : Except LexError Token → Lexer → Prop
  | failed {error : LexError} (stopped : lexer.failed = some error) :
      Consumed lexer (.error error) lexer
  | replayed {token : Token} {pending : List Token} (running : lexer.failed = none)
      (waiting : lexer.pending = token :: pending) :
      Consumed lexer (.ok token) { lexer with pending, current := some token }
  | scanned {token : Token} (running : lexer.failed = none) (empty : lexer.pending = [])
      (scanned : lexer.scanner.scan.1 = .ok token) :
      Consumed lexer (.ok token)
        { lexer with scanner := lexer.scanner.scan.2, current := some token,
                     produced := lexer.produced + 1 }
  | stopped {error : LexError} (running : lexer.failed = none) (empty : lexer.pending = [])
      (scanned : lexer.scanner.scan.1 = .error error) :
      Consumed lexer (.error error)
        { lexer with scanner := lexer.scanner.scan.2, failed := some error }

theorem consumed (lexer : Lexer) : Consumed lexer lexer.consume.1 lexer.consume.2 := by
  obtain ⟨scanner, pending, current, produced, failed, done⟩ := lexer
  cases failed with
  | some error => exact .failed rfl
  | none =>
    cases pending with
    | cons token pending => exact .replayed rfl rfl
    | nil =>
      have scanned := @Consumed.scanned ⟨scanner, [], current, produced, none, done⟩
      have stopped := @Consumed.stopped ⟨scanner, [], current, produced, none, done⟩
      unfold consume
      generalize scanner.scan = outcome at scanned stopped ⊢
      obtain ⟨result, after⟩ := outcome
      cases result with
      | ok token => exact scanned rfl rfl rfl
      | error error => exact stopped rfl rfl rfl

/-- The token that an operation hands out with its answer, if any. -/
def Operation.handedOut : Operation → Answer → Option Token
  | .consume, .token (.ok token) => some token
  | .consumeChecked, .checked (.ok (token, _)) => some token
  | .next, .item (some (.ok token)) => some token
  | _, _ => none

/-- The token that an operation can hand out, and the lexer it leaves. -/
inductive Performed (lexer : Lexer) : Option Token → Lexer → Prop
  | idle : Performed lexer none lexer
  | reconsumed {token : Token} (current : lexer.current = some token) :
      Performed lexer none { lexer with pending := lexer.pending ++ [token] }
  | handed {token : Token} {after : Lexer} (consumed : Consumed lexer (.ok token) after) :
      Performed lexer (some token) after
  | failed {error : LexError} {after : Lexer} (consumed : Consumed lexer (.error error) after) :
      Performed lexer none after
  | swallowed {token : Token} {after : Lexer} (more : lexer.done = false)
      (ends : token.isEnd = true) (consumed : Consumed lexer (.ok token) after) :
      Performed lexer none { after with done := true }
  | stopped {error : LexError} {after : Lexer} (consumed : Consumed lexer (.error error) after) :
      Performed lexer none { after with done := true }

theorem performed (lexer : Lexer) (operation : Operation) :
    Performed lexer (operation.handedOut (lexer.perform operation).1)
      (lexer.perform operation).2 := by
  have consumed := lexer.consumed
  cases operation with
  | consume =>
    show Performed lexer (Operation.handedOut .consume (.token lexer.consume.1)) lexer.consume.2
    generalize lexer.consume.1 = outcome at consumed ⊢
    cases outcome with
    | error error => exact .failed consumed
    | ok token => exact .handed consumed
  | consumeChecked =>
    show Performed lexer (Operation.handedOut .consumeChecked (.checked (lexer.consume.1.map _)))
      lexer.consume.2
    generalize lexer.consume.1 = outcome at consumed ⊢
    cases outcome with
    | error error => exact .failed consumed
    | ok token => exact .handed consumed
  | peek => exact .idle
  | peekMany count => exact .idle
  | reconsume =>
    obtain ⟨scanner, pending, current, produced, failed, done⟩ := lexer
    cases current with
    | none => exact .idle
    | some token => exact .reconsumed rfl
  | next =>
    show Performed lexer (Operation.handedOut .next (.item lexer.next.1)) lexer.next.2
    unfold Lexer.next
    cases more : lexer.done with
    | true => exact .idle
    | false =>
      generalize lexer.consume = outcome at consumed ⊢
      obtain ⟨result, after⟩ := outcome
      cases result with
      | error error => exact .stopped consumed
      | ok token =>
        cases ends : token.isEnd with
        | true =>
          simp only [ends]
          exact .swallowed more ends consumed
        | false =>
          simp only [ends]
          exact .handed consumed

/-! ### Runs of operations -/

/-- A property of lexers that no operation breaks. -/
structure Kept (property : Lexer → Prop) : Prop where
  consume : ∀ {lexer outcome after}, property lexer → Consumed lexer outcome after → property after
  finish : ∀ {lexer}, property lexer → property { lexer with done := true }
  reconsume : ∀ {lexer token}, property lexer → lexer.current = some token →
    property { lexer with pending := lexer.pending ++ [token] }

namespace Kept

variable {property : Lexer → Prop}

theorem perform (kept : Kept property) {lexer : Lexer} (holds : property lexer)
    (operation : Operation) : property (lexer.perform operation).2 := by
  have performed := lexer.performed operation
  generalize operation.handedOut (lexer.perform operation).1 = handed at performed
  generalize (lexer.perform operation).2 = after at performed ⊢
  cases performed with
  | idle => exact holds
  | reconsumed current => exact kept.reconsume holds current
  | handed consumed => exact kept.consume holds consumed
  | failed consumed => exact kept.consume holds consumed
  | swallowed more ends consumed => exact kept.finish (kept.consume holds consumed)
  | stopped consumed => exact kept.finish (kept.consume holds consumed)

/-- **What each operation keeps, every run keeps.** -/
theorem run (kept : Kept property) (operations : List Operation) {lexer : Lexer}
    (holds : property lexer) : property (lexer.run operations).2 := by
  induction operations generalizing lexer with
  | nil => exact holds
  | cons operation operations ih => exact ih (kept.perform holds operation)

end Kept

/-- The lexer of a text after some operations. -/
def reached (source : String) (operations : List Operation) : Lexer :=
  ((ofString source).run operations).2

/-! ### The invariant -/

/-- How a lexer stands to the results of scanning its text: the last of them is its current token,
copies of that token wait, and the scanner stands behind it. -/
structure Coherent (source : String) (lexer : Lexer) : Prop where
  fresh : lexer.produced = 0 → lexer.current = none
  current : ∀ count, lexer.produced = count + 1 →
    ∃ token, Scanner.result source count = .ok token ∧ lexer.current = some token
  pending : ∀ token ∈ lexer.pending, lexer.current = some token
  scanner : lexer.failed = none → lexer.scanner = Scanner.after source lexer.produced
  failed : ∀ error, lexer.failed = some error →
    Scanner.result source lexer.produced = .error error

namespace Coherent

theorem ofString (source : String) : Coherent source (ofString source) where
  fresh := fun _ => rfl
  current := fun _ scanned => by cases scanned
  pending := fun _ waiting => by cases waiting
  scanner := fun _ => rfl
  failed := fun _ stopped => by cases stopped

/-- A lexer that runs scans the next result. -/
theorem scan_eq {source : String} {lexer : Lexer} (coherent : Coherent source lexer)
    (running : lexer.failed = none) :
    lexer.scanner.scan = (Scanner.result source lexer.produced,
      Scanner.after source (lexer.produced + 1)) := by
  rw [coherent.scanner running]
  rfl

theorem scanned_of_current {source : String} {lexer : Lexer} {token : Token}
    (coherent : Coherent source lexer) (current : lexer.current = some token) :
    ∃ count, lexer.produced = count + 1 ∧ Scanner.result source count = .ok token := by
  cases produced : lexer.produced with
  | zero => simp [coherent.fresh produced] at current
  | succ count =>
    obtain ⟨last, scanned, same⟩ := coherent.current count produced
    obtain rfl := Option.some.inj (same.symm.trans current)
    exact ⟨count, rfl, scanned⟩

theorem consume {source : String} {lexer after : Lexer} {outcome : Except LexError Token}
    (coherent : Coherent source lexer) (consumed : Consumed lexer outcome after) :
    Coherent source after := by
  cases consumed with
  | failed stopped => exact coherent
  | replayed running waiting =>
    -- a pending token is the current one, so that only the queue changes
    have same := coherent.pending _ (waiting ▸ List.mem_cons_self)
    refine ⟨fun none => ?_, fun count scanned => ?_, fun token later => ?_, coherent.scanner,
      coherent.failed⟩
    · rw [← same]
      exact coherent.fresh none
    · rw [← same]
      exact coherent.current count scanned
    · rw [← same]
      exact coherent.pending token (waiting ▸ List.mem_cons_of_mem _ later)
  | scanned running empty scanned =>
    -- the queue is empty, so that no older token waits behind the new one
    have next := coherent.scan_eq running
    rw [next] at scanned
    refine ⟨fun none => ?_, fun count last => ?_, fun token waiting => ?_, fun _ => ?_,
      fun error stopped => ?_⟩
    · cases none
    · obtain rfl := Nat.succ.inj last
      exact ⟨_, scanned, rfl⟩
    · rw [show _ = [] from empty] at waiting
      cases waiting
    · rw [next]
    · rw [show _ = none from running] at stopped
      cases stopped
  | stopped running empty scanned =>
    rw [coherent.scan_eq running] at scanned
    refine ⟨coherent.fresh, coherent.current, coherent.pending, fun none => ?_,
      fun error stopped => ?_⟩
    · cases none
    · obtain rfl := Option.some.inj stopped
      exact scanned

theorem reconsume {source : String} {lexer : Lexer} {token : Token}
    (coherent : Coherent source lexer) (current : lexer.current = some token) :
    Coherent source { lexer with pending := lexer.pending ++ [token] } := by
  refine ⟨coherent.fresh, coherent.current, ?_, coherent.scanner, coherent.failed⟩
  exact List.forall_mem_append.mpr ⟨coherent.pending, List.forall_mem_singleton.mpr current⟩

theorem kept (source : String) : Kept (Coherent source) where
  consume := consume
  finish := fun coherent =>
    ⟨coherent.fresh, coherent.current, coherent.pending, coherent.scanner, coherent.failed⟩
  reconsume := reconsume

end Coherent

/-- **Every lexer that operations can reach is coherent.** -/
theorem coherent_reached (source : String) (operations : List Operation) :
    Coherent source (reached source operations) :=
  (Coherent.kept source).run operations (.ofString source)

end Lexer

end ExprLexer
