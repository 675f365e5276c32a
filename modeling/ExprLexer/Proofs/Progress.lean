import ExprLexer.Proofs.Draining

/-!
Every scan makes progress, so every walk over the tokens of a text is over soon.

* `Scanner.index_add_length_scan`: a scan neither drops a character nor reads one twice;
* `Scanner.Advances`, `Scanner.advances`: **a scan ends the input, fails, or moves forward**;
* `Scanner.ComesTo.pairwise_index`, `Scanner.ComesTo.index_le`: the tokens before a stop stand in order,
  and within the text;
* `Lexer.scans`: how many scans a lexer has made, and `Lexer.Consumed.scans`: when it makes one;
* `loopWithin`: the result of a loop that is over after a number of passes;
* `Lexer.Ready.loopWithin_read`, `Lexer.Ready.loopWithin_readTo`, `Lexer.Ready.loopWithin_next`: the loops
  that read all tokens, read up to a limit, and iterate;
* `Soon`, `soon`: **each of the loops is over after one scan more than the text has characters**, and
  the tokens of a text are no more than that.

A pass of each loop makes one scan at most (`Lexer.OneScan`).  A token takes a character, and so does an
error, which leaves one pass for the end.
-/

namespace ExprLexer

open Scanner (ComesTo exists_comesTo)

/-! ### Progress of a scan -/

namespace Scanner

theorem index_add_length_scanHere (mark : Mark) (chars : List Char) :
    (scanHere mark chars).2.position.index + (scanHere mark chars).2.state.rest.length
      = mark.pos.index + chars.length := by
  cases chars with
  | nil => rfl
  | cons c rest =>
    rw [scanHere]
    cases outcome : Lexeme.read c rest with
    | ok lexeme =>
      dsimp only
      rw [position, behind_state, Mark.index_advance, ← Lexeme.spelling_append_rest outcome,
        List.length_append, Nat.add_assoc]
    | error fault =>
      dsimp only
      rw [position, Mark.index_advance, ← Fault.read_append_rest outcome, List.length_append,
        Nat.add_assoc]

/-- A scan neither drops a character nor reads one twice. -/
theorem index_add_length_scan (scanner : Scanner) :
    scanner.scan.2.position.index + scanner.scan.2.state.rest.length
      = scanner.position.index + scanner.state.rest.length := by
  unfold scan
  cases scanner.ended with
  | some final => rfl
  | none =>
    have blanks := congrArg List.length
      (List.takeWhile_append_dropWhile (p := CharClass.isBlank) (l := scanner.state.rest))
    rw [List.length_append] at blanks
    show (scanFrom scanner.state).2.position.index + _ = _
    rw [scanFrom, index_add_length_scanHere, Mark.index_advance, position]
    omega

/-- What a scan can come to: an error, the end of the input, or a token further on in the text. -/
inductive Advances (scanner : Scanner) : Prop
  | failed {error : LexError} (scanned : scanner.scan.1 = .error error)
  | ended {token : Token} (scanned : scanner.scan.1 = .ok token) (ends : token.isEnd = true)
  | moved {token : Token} (scanned : scanner.scan.1 = .ok token) (more : token.isEnd = false)
      (forward : scanner.position.index + 1 ≤ scanner.scan.2.position.index)

/-- A token before the end of the input stands further on in the text. -/
theorem position_lt_of_scan {scanner : Scanner} {token : Token}
    (scanned : scanner.scan.1 = .ok token) (more : token.isEnd = false) :
    scanner.position.index < scanner.scan.2.position.index := by
  have shorter := scan_shortens (ended_eq_none_of_scan scanned more).1 scanned more
  have moved := index_add_length_scan scanner
  omega

/-- **A scan ends the input, fails, or moves forward.** -/
theorem advances (scanner : Scanner) : Advances scanner := by
  cases scanned : scanner.scan.1 with
  | error error => exact .failed scanned
  | ok token =>
    cases more : token.isEnd with
    | true => exact .ended scanned more
    | false => exact .moved scanned more (position_lt_of_scan scanned more)

/-- At the end of a text no scan fails. -/
theorem rest_ne_nil_of_scan {scanner : Scanner} {error : LexError}
    (failed : scanner.scan.1 = .error error) : scanner.state.rest ≠ [] := by
  intro none
  unfold scan at failed
  cases ended : scanner.ended with
  | some final =>
    rw [ended] at failed
    cases failed
  | none =>
    rw [ended] at failed
    simp only [scanFrom] at failed
    rw [none] at failed
    cases failed

namespace ComesTo

variable {scanner : Scanner} {earlier : List Token} {stop : Except LexError Token}

/-- Every token before a stop stands behind where the scanner stood, and within what is left. -/
theorem index_of_mem (comes : ComesTo scanner earlier stop) (settled : scanner.Settled) :
    ∀ token ∈ earlier, scanner.position.index < token.pos.index
      ∧ token.pos.index ≤ scanner.position.index + scanner.state.rest.length := by
  induction comes with
  | ended scanned ends => exact List.forall_mem_nil _
  | failed scanned => exact List.forall_mem_nil _
  | @token scanner token earlier stop scanned more later ih =>
    have forward := position_lt_of_scan scanned more
    have moved := index_add_length_scan scanner
    have stands := position_scan settled scanned
    refine List.forall_mem_cons.mpr ⟨?_, fun other member => ?_⟩
    · rw [← stands]
      omega
    · have within := ih (settled_scan settled) other member
      omega

/-- The tokens before a stop stand in the order of the text. -/
theorem pairwise_index (comes : ComesTo scanner earlier stop) (settled : scanner.Settled) :
    (earlier.map fun token => token.pos.index).Pairwise (· < ·) := by
  induction comes with
  | ended scanned ends => exact List.Pairwise.nil
  | failed scanned => exact List.Pairwise.nil
  | @token scanner token earlier stop scanned more later ih =>
    rw [List.map_cons, List.pairwise_cons]
    refine ⟨fun index member => ?_, ih (settled_scan settled)⟩
    obtain ⟨other, later', rfl⟩ := List.mem_map.mp member
    rw [← position_scan settled scanned]
    exact (later.index_of_mem (settled_scan settled) other later').1

/-- Every token read takes a character, and so does an error. -/
theorem length_add_le (comes : ComesTo scanner earlier stop) :
    earlier.length + (Lexer.lastItems stop).length ≤ scanner.state.rest.length := by
  induction comes with
  | ended scanned ends => exact Nat.zero_le _
  | failed scanned => exact List.length_pos_iff.mpr (rest_ne_nil_of_scan scanned)
  | token scanned more later ih =>
    have shorter := scan_shortens (ended_eq_none_of_scan scanned more).1 scanned more
    rw [List.length_cons]
    omega

end ComesTo

end Scanner

/-! ### Loops -/

/-- The result of a loop that is over after at most some passes through its body.  A pass gives the
result, or the state that the next pass begins in. -/
def loopWithin {σ ρ : Type} (body : σ → ρ ⊕ σ) : Nat → σ → Option ρ
  | 0, _ => none
  | passes + 1, state =>
    match body state with
    | .inl result => some result
    | .inr next => loopWithin body passes next

namespace Lexer

/-- How many scans a lexer has made: each gave a token, or the error that stopped the lexer. -/
def scans (lexer : Lexer) : Nat := lexer.produced + lexer.failed.toList.length

/-- A lexer scans when it has not failed and no token is pending, and then once. -/
theorem Consumed.scans {lexer after : Lexer} {outcome : Except LexError Token}
    (consumed : Consumed lexer outcome after) :
    after.scans = lexer.scans + if lexer.failed = none ∧ lexer.pending = [] then 1 else 0 := by
  cases consumed with
  | failed stopped => simp [stopped]
  | replayed running waiting => simp [Lexer.scans, waiting]
  | scanned running empty scanned => simp [Lexer.scans, running, empty]
  | stopped running empty scanned => simp [Lexer.scans, running, empty]

theorem scans_consume_le (lexer : Lexer) : lexer.consume.2.scans ≤ lexer.scans + 1 := by
  rw [lexer.consumed.scans]
  split <;> omega

theorem scans_next_le (lexer : Lexer) : lexer.next.2.scans ≤ lexer.scans + 1 := by
  cases more : lexer.done with
  | true =>
    rw [next_of_done more]
    exact Nat.le_succ _
  | false =>
    rw [next_of_consume more]
    have bound := lexer.scans_consume_le
    cases lexer.consume.1 with
    | error error => exact bound
    | ok token =>
      dsimp only
      split
      · exact bound
      · exact bound

/-- A pass of reading all tokens: the next token is kept; the end of the input ends the loop, and so
does an error. -/
def readPass (state : List Token × Lexer) :
    (Except LexError (List Token) × Lexer) ⊕ (List Token × Lexer) :=
  match state.2.consumeChecked with
  | (.error error, after) => .inl (.error error, after)
  | (.ok (token, more), after) =>
    if more then .inr (state.1 ++ [token], after) else .inl (.ok (state.1 ++ [token]), after)

/-- A pass of reading tokens up to a limit. -/
def readPassTo (limit : Nat) (state : List Token × Lexer) :
    (Except LexError (List Token) × Lexer) ⊕ (List Token × Lexer) :=
  if state.1.length < limit then readPass state else .inl (.ok state.1, state.2)

/-- A pass of iteration: the next item is kept until there is none. -/
def nextPass (state : List (Except LexError Token) × Lexer) :
    (List (Except LexError Token) × Lexer) ⊕ (List (Except LexError Token) × Lexer) :=
  match state.2.next with
  | (none, after) => .inl (state.1, after)
  | (some item, after) => .inr (state.1 ++ [item], after)

/-- A pass makes one scan at most, whether it is the last or not. -/
def OneScan {κ ρ : Type} (body : κ × Lexer → (ρ × Lexer) ⊕ (κ × Lexer)) : Prop :=
  ∀ state, (body state).elim (fun result => result.2.scans) (fun next => next.2.scans)
    ≤ state.2.scans + 1

theorem readPass_eq (kept : List Token) (lexer : Lexer) :
    readPass (kept, lexer)
      = match lexer.consume.1 with
        | .error error => .inl (.error error, lexer.consume.2)
        | .ok token =>
          if token.isEnd then .inl (.ok (kept ++ [token]), lexer.consume.2)
          else .inr (kept ++ [token], lexer.consume.2) := by
  rw [readPass, Lexer.consumeChecked]
  generalize lexer.consume = outcome
  obtain ⟨result, after⟩ := outcome
  cases result with
  | error error => rfl
  | ok token =>
    dsimp only [Except.map]
    cases token.isEnd with
    | true => rfl
    | false => rfl

theorem oneScan_readPass : OneScan readPass := by
  rintro ⟨kept, lexer⟩
  rw [readPass_eq]
  have bound := lexer.scans_consume_le
  cases lexer.consume.1 with
  | error error => exact bound
  | ok token =>
    dsimp only
    split
    · exact bound
    · exact bound

theorem oneScan_readPassTo (limit : Nat) : OneScan (readPassTo limit) := by
  intro state
  rw [readPassTo]
  split
  · exact oneScan_readPass state
  · exact Nat.le_succ _

theorem oneScan_nextPass : OneScan nextPass := by
  rintro ⟨kept, lexer⟩
  have bound := lexer.scans_next_le
  rw [nextPass]
  dsimp only
  generalize lexer.next = outcome at bound ⊢
  obtain ⟨item, after⟩ := outcome
  cases item with
  | none => exact bound
  | some item => exact bound

/-- A loop makes no more scans than passes. -/
theorem OneScan.scans_le {κ ρ : Type} {body : κ × Lexer → (ρ × Lexer) ⊕ (κ × Lexer)}
    (once : OneScan body) {passes : Nat} {state : κ × Lexer} {result : ρ × Lexer}
    (looped : loopWithin body passes state = some result) :
    result.2.scans ≤ state.2.scans + passes := by
  induction passes generalizing state with
  | zero => cases looped
  | succ passes ih =>
    have bound := once state
    rw [loopWithin] at looped
    cases pass : body state with
    | inl last =>
      rw [pass] at looped bound
      obtain rfl := Option.some.inj looped
      have bound : last.2.scans ≤ state.2.scans + 1 := bound
      omega
    | inr next =>
      rw [pass] at looped bound
      have later := ih looped
      have bound : next.2.scans ≤ state.2.scans + 1 := bound
      omega

theorem OneScan.scans_le_of_ofString {κ ρ : Type} {body : κ × Lexer → (ρ × Lexer) ⊕ (κ × Lexer)}
    (once : OneScan body) {passes : Nat} {source : String} {start : κ} {result : ρ × Lexer}
    (looped : loopWithin body passes (start, ofString source) = some result) :
    result.2.scans ≤ passes := by
  have bound := once.scans_le looped
  rwa [show (ofString source).scans = 0 from rfl, Nat.zero_add] at bound

namespace Ready

variable {lexer : Lexer} {earlier : List Token} {stop : Except LexError Token}

/-- The loop that reads all tokens keeps those before the stop, and is over with the stop. -/
theorem loopWithin_read (ready : Ready lexer) (comes : ComesTo lexer.scanner earlier stop)
    (kept : List Token) {passes : Nat} (enough : earlier.length < passes) :
    ∃ final, loopWithin readPass passes (kept, lexer)
      = some (stop.map fun last => kept ++ earlier ++ [last], final) := by
  generalize stands : lexer.scanner = scanner at comes
  induction comes generalizing lexer kept passes with
  | ended scanned ends =>
    subst stands
    obtain ⟨passes, rfl⟩ := Nat.exists_eq_succ_of_ne_zero (Nat.ne_zero_of_lt enough)
    rw [loopWithin, readPass_eq, ready.consume, scanned]
    dsimp only
    rw [if_pos ends, List.append_nil]
    exact ⟨_, rfl⟩
  | failed scanned =>
    subst stands
    obtain ⟨passes, rfl⟩ := Nat.exists_eq_succ_of_ne_zero (Nat.ne_zero_of_lt enough)
    rw [loopWithin, readPass_eq, ready.consume, scanned]
    exact ⟨_, rfl⟩
  | @token scanner token earlier stop scanned more later ih =>
    subst stands
    obtain ⟨passes, rfl⟩ := Nat.exists_eq_succ_of_ne_zero (Nat.ne_zero_of_lt enough)
    obtain ⟨readyAfter, stands⟩ := ready.step scanned
    rw [loopWithin, readPass_eq, ready.consume, scanned, List.append_cons]
    simp only [more, Bool.false_eq_true, if_false]
    exact ih readyAfter (kept ++ [token]) (Nat.lt_of_succ_lt_succ enough) stands

/-- The loop with a limit reads as many tokens as are still allowed. -/
theorem loopWithin_readTo (ready : Ready lexer) (comes : ComesTo lexer.scanner earlier stop)
    (kept : List Token) (room : Nat) {passes : Nat} (enough : earlier.length < passes) :
    ∃ final, loopWithin (readPassTo (kept.length + room)) passes (kept, lexer)
      = some ((Scanner.take room lexer.scanner).map (kept ++ ·), final) := by
  induction room generalizing lexer kept earlier passes with
  | zero =>
    obtain ⟨passes, rfl⟩ := Nat.exists_eq_succ_of_ne_zero (Nat.ne_zero_of_lt enough)
    have full : ¬ (kept, lexer).1.length < kept.length + 0 := Nat.lt_irrefl _
    rw [loopWithin, readPassTo, if_neg full, Scanner.take]
    exact ⟨lexer, by rw [Except.map, List.append_nil]⟩
  | succ room ih =>
    obtain ⟨passes, rfl⟩ := Nat.exists_eq_succ_of_ne_zero (Nat.ne_zero_of_lt enough)
    have below : (kept, lexer).1.length < kept.length + (room + 1) :=
      Nat.lt_add_of_pos_right (Nat.succ_pos room)
    rw [loopWithin, readPassTo, if_pos below, readPass_eq, ready.consume, Scanner.take_succ]
    generalize stands : lexer.scanner = scanner at comes
    cases comes with
    | ended scanned ends =>
      rw [scanned]
      dsimp only [Except.bind]
      rw [if_pos ends, if_pos ends]
      exact ⟨_, rfl⟩
    | failed scanned =>
      rw [scanned]
      exact ⟨_, rfl⟩
    | @token _ token earlier _ scanned more later =>
      subst stands
      obtain ⟨readyAfter, stands⟩ := ready.step scanned
      have same : kept.length + (room + 1) = (kept ++ [token]).length + room := by
        rw [List.length_append, List.length_singleton]
        omega
      obtain ⟨final, looped⟩ := ih readyAfter (stands ▸ later) (kept ++ [token])
        (Nat.lt_of_succ_lt_succ enough)
      rw [scanned]
      simp only [Except.bind, more, Bool.false_eq_true, if_false]
      rw [same, looped, stands]
      refine ⟨final, ?_⟩
      cases Scanner.take room lexer.scanner.scan.2 with
      | error error => rfl
      | ok tokens => simp [Except.map]

/-- Iterating keeps the tokens before the stop, and the error if that is one. -/
theorem loopWithin_next (ready : Ready lexer) (comes : ComesTo lexer.scanner earlier stop)
    (kept : List (Except LexError Token)) {passes : Nat}
    (enough : earlier.length + (lastItems stop).length < passes) :
    ∃ final, loopWithin nextPass passes (kept, lexer)
      = some (kept ++ (earlier.map .ok ++ lastItems stop), final) := by
  generalize stands : lexer.scanner = scanner at comes
  induction comes generalizing lexer kept passes with
  | ended scanned ends =>
    subst stands
    obtain ⟨passes, rfl⟩ := Nat.exists_eq_succ_of_ne_zero (Nat.ne_zero_of_lt enough)
    rw [loopWithin, nextPass, next_of_consume ready.more, ready.consume, scanned]
    dsimp only
    rw [if_pos ends, List.map_nil, List.nil_append, lastItems, List.append_nil]
    exact ⟨_, rfl⟩
  | @failed scanner error scanned =>
    subst stands
    -- the error is an item, and one more pass finds that there is no other
    obtain ⟨passes, rfl⟩ := Nat.exists_eq_succ_of_ne_zero (Nat.ne_zero_of_lt enough)
    obtain ⟨passes, rfl⟩ := Nat.exists_eq_succ_of_ne_zero
      (Nat.ne_zero_of_lt (Nat.lt_of_succ_lt_succ enough))
    rw [loopWithin, nextPass, next_of_consume ready.more, ready.consume, scanned]
    dsimp only
    rw [loopWithin, nextPass, next_of_done rfl]
    exact ⟨_, rfl⟩
  | @token scanner token earlier stop scanned more later ih =>
    subst stands
    obtain ⟨passes, rfl⟩ := Nat.exists_eq_succ_of_ne_zero (Nat.ne_zero_of_lt enough)
    obtain ⟨readyAfter, stands⟩ := ready.step scanned
    rw [loopWithin, nextPass, next_of_consume ready.more, ready.consume, scanned]
    simp only [more, Bool.false_eq_true, if_false]
    have enoughAfter : earlier.length + (lastItems stop).length < passes := by
      rw [List.length_cons] at enough
      omega
    obtain ⟨final, looped⟩ := ih readyAfter (kept ++ [.ok token]) enoughAfter stands
    rw [looped, List.append_assoc]
    exact ⟨final, rfl⟩

end Ready

end Lexer

/-! ### Whole texts -/

/-- The walks over the tokens of a text are over soon: after as many passes as the text has characters
and one more, and no more scans than that.  The tokens are no more than that either. -/
structure Soon (source : String) : Prop where
  /-- Reading all tokens. -/
  read : ∃ final, loopWithin Lexer.readPass (source.toList.length + 1) ([], .ofString source)
      = some (tokenize source, final) ∧ final.scans ≤ source.toList.length + 1
  /-- Iterating. -/
  iterate : ∃ final, loopWithin Lexer.nextPass (source.toList.length + 1) ([], .ofString source)
      = some ((Lexer.ofString source).drain.1, final) ∧ final.scans ≤ source.toList.length + 1
  /-- Reading up to a limit. -/
  collect : ∀ limit, ∃ outcome final,
    loopWithin (Lexer.readPassTo limit) (source.toList.length + 1) ([], .ofString source)
        = some (outcome, final)
      ∧ outcome.mapError (.lexical · source) = collectTokens source limit
      ∧ final.scans ≤ source.toList.length + 1
  /-- The end of the input is the last token and no other, and the others stand in order. -/
  tokens : ∀ tokens, tokenize source = .ok tokens → ∃ earlier final, tokens = earlier ++ [final]
    ∧ final.isEnd = true ∧ (∀ token ∈ earlier, token.isEnd = false)
    ∧ 1 ≤ tokens.length ∧ tokens.length ≤ source.toList.length + 1
    ∧ (earlier.map fun token => token.pos.index).Pairwise (· < ·)
    ∧ ∀ token ∈ earlier, token.pos.index ≤ source.toList.length

theorem soon (source : String) : Soon source := by
  obtain ⟨earlier, stop, comes⟩ := exists_comesTo (Scanner.ofString source)
  have ready := Lexer.ready_ofString source
  have fits : earlier.length + (Lexer.lastItems stop).length ≤ source.toList.length :=
    comes.length_add_le
  have enough : earlier.length < source.toList.length + 1 := Nat.lt_succ_of_le comes.length_le
  refine ⟨?_, ?_, fun limit => ?_, fun tokens done => ?_⟩
  · obtain ⟨final, looped⟩ := ready.loopWithin_read comes [] enough
    rw [comes.tokenize_eq]
    exact ⟨final, looped, Lexer.oneScan_readPass.scans_le_of_ofString looped⟩
  · obtain ⟨final, looped⟩ := ready.loopWithin_next comes [] (Nat.lt_succ_of_le fits)
    rw [(ready.drain comes).1]
    exact ⟨final, looped, Lexer.oneScan_nextPass.scans_le_of_ofString looped⟩
  · obtain ⟨final, looped⟩ := ready.loopWithin_readTo comes [] limit enough
    rw [List.length_nil, Nat.zero_add] at looped
    refine ⟨_, final, looped, ?_, (Lexer.oneScan_readPassTo limit).scans_le_of_ofString looped⟩
    show ((Scanner.take limit (Scanner.ofString source)).map ([] ++ ·)).mapError _ = _
    rw [collectTokens]
    cases Scanner.take limit (Scanner.ofString source) <;> rfl
  · have settled : (Scanner.ofString source).Settled := Scanner.settled_after source 0
    rw [comes.tokenize_eq] at done
    cases stop with
    | error error => cases done
    | ok final =>
      obtain rfl := Except.ok.inj done
      rw [List.length_append, List.length_singleton]
      refine ⟨earlier, final, rfl, comes.isEnd, comes.goesOn, Nat.le_add_left _ _, enough,
        comes.pairwise_index settled, fun token member => ?_⟩
      have within : token.pos.index ≤ 0 + source.toList.length :=
        (comes.index_of_mem settled token member).2
      rwa [Nat.zero_add] at within

/-- **Every scan makes progress, and every walk over the tokens of a text is over soon.** -/
theorem advances_soon :
    (∀ scanner : Scanner, scanner.Advances) ∧ ∀ source : String, Soon source :=
  ⟨Scanner.advances, soon⟩

end ExprLexer
