import ExprLexer.Proofs.Runs

/-!
Looking ahead agrees with consuming.

* `Lexer.Consumed.peekMany`: looking one token further is consuming one and looking on;
* `Lexer.peekMany_ok_iff`, `Lexer.peekMany_error_iff`: looking ahead gives the tokens that consuming
  would hand out, or the first error among them;
* `Lexer.AtEnd`: a lexer behind the end of the input, from which only the end comes;
* `Lexer.lookahead_reached`: **in every lexer that operations can reach, looking ahead gives what
  consuming would**.

Looking ahead walks the pending tokens and then a copy of the scanner, consuming takes one pending
token or moves the scanner.  `Consumed.peekMany` is where the two meet; the rest is induction on how
far one looks.
-/

namespace ExprLexer

/-- Changing what succeeds changes no error. -/
theorem map_eq_error_iff {α β : Type} {change : α → β} {outcome : Except LexError α}
    {error : LexError} : outcome.map change = .error error ↔ outcome = .error error := by
  cases outcome <;> simp [Except.map]

namespace Scanner

/-- Looking one token further is scanning one and looking on. -/
theorem look_succ (scanner : Scanner) (count : Nat) :
    scanner.look (count + 1)
      = scanner.scan.1.bind fun token => (scanner.scan.2.look count).map (token :: ·) := by
  rw [look]
  generalize scanner.scan = outcome
  obtain ⟨scanned, after⟩ := outcome
  cases scanned <;> rfl

theorem look_after (source : String) (scans count : Nat) :
    (after source scans).look count = (List.range' scans count).mapM (result source) := by
  induction count generalizing scans with
  | zero => rfl
  | succ count ih =>
    have next : (after source scans).scan.2.look count = _ := ih (scans + 1)
    rw [List.range'_succ, List.mapM_cons, look_succ, next, result]
    rfl

end Scanner

namespace Lexer

/-! ### One token further -/

theorem Consumed.peek {lexer after : Lexer} {outcome : Except LexError Token}
    (consumed : Consumed lexer outcome after) : lexer.peek = outcome := by
  unfold Lexer.peek
  cases consumed with
  | failed stopped => rw [stopped]
  | replayed running waiting => rw [running, waiting]
  | scanned running empty scanned => rw [running, empty, ← scanned]
  | stopped running empty scanned => rw [running, empty, ← scanned]

theorem peekMany_running {lexer : Lexer} (running : lexer.failed = none) (count : Nat) :
    lexer.peekMany count
      = (lexer.scanner.look (count - lexer.pending.length)).map (lexer.pending.take count ++ ·) := by
  have left : count - (lexer.pending.take count).length = count - lexer.pending.length := by
    rw [List.length_take]
    omega
  rw [Lexer.peekMany, running]
  dsimp only
  rw [left]

theorem peekMany_empty {lexer : Lexer} (running : lexer.failed = none) (empty : lexer.pending = [])
    (count : Nat) : lexer.peekMany count = lexer.scanner.look count := by
  rw [peekMany_running running, empty, List.take_nil, List.length_nil, Nat.sub_zero]
  cases lexer.scanner.look count <;> rfl

/-- Looking one token further is consuming one and looking on. -/
theorem Consumed.peekMany {lexer after : Lexer} {outcome : Except LexError Token}
    (consumed : Consumed lexer outcome after) (count : Nat) :
    lexer.peekMany (count + 1)
      = outcome.bind fun token => (after.peekMany count).map (token :: ·) := by
  cases consumed with
  | failed stopped => rw [Lexer.peekMany, stopped]; rfl
  | @replayed token pending running waiting =>
    -- the pending token counts on both sides, so that as many are scanned
    have later : (count + 1) - (token :: pending).length = count - pending.length := by
      rw [List.length_cons]
      omega
    rw [peekMany_running running, waiting, later, Except.bind, peekMany_running]
    · cases lexer.scanner.look (count - pending.length) <;> rfl
    · exact running
  | @scanned token running empty scanned =>
    rw [peekMany_empty running empty, Scanner.look_succ, scanned]
    refine congrArg (Except.map (token :: ·)) (Eq.symm ?_)
    refine peekMany_empty ?_ ?_ count
    · exact running
    · exact empty
  | @stopped error running empty scanned =>
    rw [peekMany_empty running empty, Scanner.look_succ, scanned]
    rfl

theorem peek_eq (lexer : Lexer) : lexer.peek = lexer.consume.1 := lexer.consumed.peek

theorem peekMany_succ (lexer : Lexer) (count : Nat) :
    lexer.peekMany (count + 1)
      = lexer.consume.1.bind fun token => (lexer.consume.2.peekMany count).map (token :: ·) :=
  lexer.consumed.peekMany count

theorem peekMany_failed {lexer : Lexer} {error : LexError} (stopped : lexer.failed = some error)
    (count : Nat) : lexer.peekMany count = .error error := by
  rw [Lexer.peekMany, stopped]

theorem peekMany_zero {lexer : Lexer} (running : lexer.failed = none) :
    lexer.peekMany 0 = .ok [] := by
  rw [peekMany_running running, Nat.zero_sub]
  rfl

/-! ### Looking ahead and consuming -/

theorem Consumed.running {lexer after : Lexer} {token : Token}
    (consumed : Consumed lexer (.ok token) after) : after.failed = none := by
  cases consumed with
  | replayed running waiting => exact running
  | scanned running empty scanned => exact running

/-- What consuming over and over answers. -/
def consumptions (lexer : Lexer) (count : Nat) : List Answer :=
  (lexer.run (List.replicate count .consume)).1

theorem consumptions_succ (lexer : Lexer) (count : Nat) :
    lexer.consumptions (count + 1)
      = .token lexer.consume.1 :: lexer.consume.2.consumptions count := rfl

/-- Looking ahead gives tokens exactly when consuming would hand them out. -/
theorem peekMany_ok_iff {lexer : Lexer} (running : lexer.failed = none) (count : Nat)
    (tokens : List Token) :
    lexer.peekMany count = .ok tokens
      ↔ lexer.consumptions count = tokens.map fun token => .token (.ok token) := by
  induction count generalizing lexer tokens with
  | zero =>
    rw [peekMany_zero running, Except.ok.injEq]
    cases tokens <;> simp [consumptions, run]
  | succ count ih =>
    -- both sides begin with one consumption, and go on from the lexer it leaves
    have consumed := lexer.consumed
    rw [peekMany_succ, consumptions_succ]
    generalize lexer.consume.1 = outcome at consumed ⊢
    cases outcome with
    | error error => cases tokens <;> simp [Except.bind]
    | ok token =>
      have further := ih consumed.running
      cases tokens with
      | nil => cases lexer.consume.2.peekMany count <;> simp [Except.bind, Except.map]
      | cons first others =>
        rw [List.map_cons, List.cons.injEq, ← further others]
        cases lexer.consume.2.peekMany count <;> simp [Except.bind, Except.map]

/-- Looking ahead fails exactly when consuming would, with the first error. -/
theorem peekMany_error_iff {lexer : Lexer} (running : lexer.failed = none) (count : Nat)
    (error : LexError) :
    lexer.peekMany count = .error error
      ↔ ∃ (tokens : List Token) (later : List Answer), lexer.consumptions count
          = (tokens.map fun token => .token (.ok token)) ++ .token (.error error) :: later := by
  induction count generalizing lexer with
  | zero =>
    rw [peekMany_zero running]
    simp [consumptions, run]
  | succ count ih =>
    have consumed := lexer.consumed
    rw [peekMany_succ, consumptions_succ]
    generalize lexer.consume.1 = outcome at consumed ⊢
    cases outcome with
    | error first =>
      constructor
      · intro same
        obtain rfl := Except.error.inj same
        exact ⟨[], _, rfl⟩
      · rintro ⟨tokens, later, answers⟩
        cases tokens with
        | nil =>
          have same := Answer.token.inj (List.cons.inj answers).1
          rw [Except.bind, Except.error.inj same]
        | cons token tokens => simp at answers
    | ok token =>
      have further := ih consumed.running
      constructor
      · intro failed
        have behind : lexer.consume.2.peekMany count = .error error := map_eq_error_iff.mp failed
        obtain ⟨tokens, later, answers⟩ := further.mp behind
        exact ⟨token :: tokens, later, by rw [answers]; rfl⟩
      · rintro ⟨tokens, later, answers⟩
        cases tokens with
        | nil => simp at answers
        | cons first tokens =>
          have behind := further.mpr ⟨tokens, later, (List.cons.inj answers).2⟩
          rw [behind]
          rfl

/-! ### Behind the end of the input -/

/-- A lexer behind the end of the input. -/
structure AtEnd (token : Token) (lexer : Lexer) : Prop where
  running : lexer.failed = none
  ends : token.isEnd = true
  current : lexer.current = some token
  pending : ∀ other ∈ lexer.pending, other = token
  scan : lexer.scanner.scan = (.ok token, lexer.scanner)

namespace AtEnd

variable {token : Token} {lexer : Lexer}

theorem consume {after : Lexer} {outcome : Except LexError Token} (atEnd : AtEnd token lexer)
    (consumed : Consumed lexer outcome after) : outcome = .ok token ∧ AtEnd token after := by
  cases consumed with
  | failed stopped => simp [atEnd.running] at stopped
  | replayed running waiting =>
    have same := atEnd.pending _ (waiting ▸ List.mem_cons_self)
    exact ⟨congrArg _ same, running, atEnd.ends, congrArg some same, fun other later =>
      atEnd.pending other (waiting ▸ List.mem_cons_of_mem _ later), atEnd.scan⟩
  | scanned running empty scanned =>
    rw [atEnd.scan] at scanned ⊢
    obtain rfl := Except.ok.inj scanned
    exact ⟨rfl, running, atEnd.ends, rfl, atEnd.pending, atEnd.scan⟩
  | stopped running empty scanned =>
    rw [atEnd.scan] at scanned
    cases scanned

theorem reconsume {current : Token} (atEnd : AtEnd token lexer)
    (handed : lexer.current = some current) :
    AtEnd token { lexer with pending := lexer.pending ++ [current] } := by
  have same : current = token := Option.some.inj (handed.symm.trans atEnd.current)
  refine ⟨atEnd.running, atEnd.ends, atEnd.current, ?_, atEnd.scan⟩
  exact List.forall_mem_append.mpr ⟨atEnd.pending, List.forall_mem_singleton.mpr same⟩

theorem kept (token : Token) : Kept (AtEnd token) where
  consume := fun atEnd consumed => (atEnd.consume consumed).2
  finish := fun atEnd => ⟨atEnd.running, atEnd.ends, atEnd.current, atEnd.pending, atEnd.scan⟩
  reconsume := reconsume

/-- However far one looks, there is only the end. -/
theorem peekMany (atEnd : AtEnd token lexer) (count : Nat) :
    lexer.peekMany count = .ok (List.replicate count token) := by
  induction count generalizing lexer with
  | zero => exact peekMany_zero atEnd.running
  | succ count ih =>
    obtain ⟨same, further⟩ := atEnd.consume lexer.consumed
    rw [peekMany_succ, same, Except.bind, ih further]
    rfl

end AtEnd

/-- A lexer whose current token ends the input stands behind the end. -/
theorem Coherent.atEnd {source : String} {lexer : Lexer} {token : Token}
    (coherent : Coherent source lexer) (running : lexer.failed = none)
    (current : lexer.current = some token) (ends : token.isEnd = true) : AtEnd token lexer := by
  refine ⟨running, ends, current, fun other waiting => ?_, ?_⟩
  · exact Option.some.inj ((coherent.pending other waiting).symm.trans current)
  · obtain ⟨count, produced, scanned⟩ := coherent.scanned_of_current current
    rw [coherent.scanner running, produced]
    exact Scanner.scan_of_isEnd scanned ends

theorem Consumed.current {lexer after : Lexer} {token : Token}
    (consumed : Consumed lexer (.ok token) after) : after.current = some token := by
  cases consumed <;> rfl

/-- Behind the end of the input one only sees it again. -/
theorem pairwise_peekMany {source : String} {lexer : Lexer} (coherent : Coherent source lexer)
    (running : lexer.failed = none) {count : Nat} {tokens : List Token}
    (seen : lexer.peekMany count = .ok tokens) :
    tokens.Pairwise fun token later => token.isEnd = true → later = token := by
  induction count generalizing lexer tokens with
  | zero =>
    rw [peekMany_zero running] at seen
    obtain rfl := Except.ok.inj seen
    exact .nil
  | succ count ih =>
    have consumed := lexer.consumed
    rw [peekMany_succ] at seen
    generalize lexer.consume.1 = outcome at consumed seen
    cases outcome with
    | error error => cases seen
    | ok token =>
      have further := coherent.consume consumed
      cases behind : lexer.consume.2.peekMany count with
      | error error =>
        rw [Except.bind, behind] at seen
        cases seen
      | ok others =>
        rw [Except.bind, behind] at seen
        obtain rfl := Except.ok.inj seen
        refine .cons (fun other member ends => ?_) (ih further consumed.running behind)
        -- behind a token that ends the input, the lexer sees copies of it only
        have atEnd := further.atEnd consumed.running consumed.current ends
        rw [atEnd.peekMany] at behind
        obtain rfl := Except.ok.inj behind
        exact List.eq_of_mem_replicate member

/-! ### Reachable lexers -/

/-- **Looking ahead gives what consuming would.**  A lexer that failed looks at its error.  Any other
one sees the tokens that as many consumptions would hand out, or the first error among those: first
the pending tokens, then scanned ones, the end of the input over and over. -/
theorem lookahead_reached {source : String} {operations : List Operation} {lexer : Lexer}
    (stands : reached source operations = lexer) (count : Nat) :
    (∀ error, lexer.failed = some error →
      lexer.peek = .error error ∧ lexer.peekMany count = .error error)
    ∧ (lexer.failed = none →
      lexer.peek = lexer.consume.1
      ∧ (∀ tokens, lexer.peekMany count = .ok tokens
          ↔ lexer.consumptions count = tokens.map fun token => .token (.ok token))
      ∧ (∀ error, lexer.peekMany count = .error error
          ↔ ∃ (tokens : List Token) (later : List Answer), lexer.consumptions count
              = (tokens.map fun token => .token (.ok token)) ++ .token (.error error) :: later)
      ∧ lexer.peekMany count
          = ((List.range' lexer.produced (count - lexer.pending.length)).mapM
              (Scanner.result source)).map (lexer.pending.take count ++ ·)
      ∧ ∀ tokens, lexer.peekMany count = .ok tokens →
          tokens.Pairwise fun token later => token.isEnd = true → later = token) := by
  subst stands
  have coherent := coherent_reached source operations
  generalize reached source operations = lexer at coherent ⊢
  refine ⟨fun error stopped => ⟨?_, peekMany_failed stopped count⟩, fun running => ?_⟩
  · rw [peek_eq, consume_failed stopped]
  · refine ⟨lexer.peek_eq, peekMany_ok_iff running count, peekMany_error_iff running count, ?_,
      fun tokens => pairwise_peekMany coherent running⟩
    rw [peekMany_running running, coherent.scanner running, Scanner.look_after]

/-- A token handed back stands before a string that is never closed. -/
theorem lookahead_reached_unclosed :
    ((reached "a 'b" [.consume, .reconsume]).failed = none
      ∧ (reached "a 'b" [.consume, .reconsume]).peekMany 1 = .ok [⟨.identifier "a", ⟨1, 1, 1⟩⟩]
      ∧ (reached "a 'b" [.consume, .reconsume]).peekMany 2
          = .error ⟨.unterminatedString '\'', ⟨4, 1, 4⟩⟩)
    ∧ (reached "a 'b" [.consume, .consume]).failed
          = some ⟨.unterminatedString '\'', ⟨4, 1, 4⟩⟩
      ∧ (reached "a 'b" [.consume, .consume]).peekMany 0
          = .error ⟨.unterminatedString '\'', ⟨4, 1, 4⟩⟩ := by
  have running : (reached "a 'b" [.consume, .reconsume]).failed = none := by decide +kernel
  have stopped : (reached "a 'b" [.consume, .consume]).failed
      = some ⟨.unterminatedString '\'', ⟨4, 1, 4⟩⟩ := by decide +kernel
  obtain ⟨-, one, -⟩ := (lookahead_reached rfl 1).2 running
  obtain ⟨-, -, two, -⟩ := (lookahead_reached rfl 2).2 running
  obtain ⟨-, none⟩ := (lookahead_reached rfl 0).1 _ stopped
  refine ⟨⟨running, (one _).mpr ?_, (two _).mpr ⟨[⟨.identifier "a", ⟨1, 1, 1⟩⟩], [], ?_⟩⟩,
    stopped, none⟩
  · rfl
  · rfl

end Lexer

end ExprLexer
