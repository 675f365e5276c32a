import ExprLexer.Inspection
import ExprLexer.Proofs.Finality
import ExprLexer.Proofs.Stops

/-!
The ways to drain a text agree: reading all its tokens, iterating, collecting up to a limit, and
looking ahead.

* `Lexer.collect`: the tokens that a lexer hands out, up to the end of the input and to a limit;
* `Lexer.Ready`: a lexer at work with no token handed back, and `Lexer.Ready.step`: consuming is then
  scanning;
* `Lexer.drain_eq_takeNext`, `Lexer.takeNext_eq_take`: iteration that is cut short and then goes on;
* `Lexer.Ready.drain`: **iterating yields the tokens before the stop, and the error if that is one**;
* `collectTokens_eq_collect`: collecting off the scanner is collecting off a lexer;
* `limits_of_end`, `limits_of_error`: what collecting and looking ahead give, by what stops the lexing;
* `drains_agree`: **the four ways give the same tokens and fail alike**, and so do the two outputs made
  of them.
-/

namespace ExprLexer

open Scanner (ComesTo exists_comesTo)

namespace Lexer

/-- The tokens that a lexer hands out, up to the one that ends the input and to a limit. -/
def collect : Nat → Lexer → Except LexError (List Token)
  | 0, _ => .ok []
  | limit + 1, lexer =>
    match lexer.consumeChecked with
    | (.error error, _) => .error error
    | (.ok (token, more), after) =>
      if more then (collect limit after).map (token :: ·) else .ok [token]

/-- A lexer at work with no token handed back. -/
structure Ready (lexer : Lexer) : Prop where
  running : lexer.failed = none
  more : lexer.done = false
  empty : lexer.pending = []

/-- What iteration yields at a stop: nothing at the end of the input, and an error once. -/
def lastItems : Except LexError Token → List (Except LexError Token)
  | .ok _ => []
  | .error error => [.error error]

theorem ready_ofString (source : String) : Ready (ofString source) := ⟨rfl, rfl, rfl⟩

theorem next_of_consume {lexer : Lexer} (more : lexer.done = false) :
    lexer.next
      = match lexer.consume.1 with
        | .ok token =>
          if token.isEnd then (none, { lexer.consume.2 with done := true })
          else (some (.ok token), lexer.consume.2)
        | .error error => (some (.error error), { lexer.consume.2 with done := true }) := by
  rw [Lexer.next, more, if_neg Bool.false_ne_true]
  generalize lexer.consume = outcome
  obtain ⟨result, after⟩ := outcome
  cases result <;> rfl

theorem drain_eq (lexer : Lexer) :
    lexer.drain
      = match lexer.next with
        | (none, after) => ([], after)
        | (some item, after) => (item :: after.drain.1, after.drain.2) := by
  rw [drain]
  split
  · next after stepped => rw [stepped]
  · next item after stepped => rw [stepped]

/-- **Iteration may be cut short**: what it yields up to some number, and then to the end, is what it
yields to the end at once. -/
theorem drain_eq_takeNext (count : Nat) (lexer : Lexer) :
    lexer.drain
      = ((lexer.takeNext count).1 ++ (lexer.takeNext count).2.drain.1,
        (lexer.takeNext count).2.drain.2) := by
  induction count generalizing lexer with
  | zero => rfl
  | succ count ih =>
    have finished := lexer.done_of_next
    rw [drain_eq, takeNext]
    generalize lexer.next = stepped at finished ⊢
    obtain ⟨item, after⟩ := stepped
    cases item with
    | none =>
      dsimp only at finished ⊢
      rw [drain_eq after, next_of_done (finished nofun)]
      rfl
    | some item =>
      dsimp only
      rw [ih after]
      rfl

/-- Up to some number, iteration yields the first items of all that it yields. -/
theorem takeNext_eq_take (count : Nat) (lexer : Lexer) :
    (lexer.takeNext count).1 = lexer.drain.1.take count := by
  induction count generalizing lexer with
  | zero => rfl
  | succ count ih =>
    rw [drain_eq, takeNext]
    cases lexer.next with
    | mk item after =>
      cases item with
      | none => rfl
      | some item => exact congrArg (item :: ·) (ih after)

theorem collect_succ (limit : Nat) (lexer : Lexer) :
    collect (limit + 1) lexer
      = lexer.consume.1.bind fun token =>
          if token.isEnd then .ok [token]
          else (collect limit lexer.consume.2).map (token :: ·) := by
  rw [collect, Lexer.consumeChecked]
  generalize lexer.consume = outcome
  obtain ⟨result, after⟩ := outcome
  cases result with
  | error error => rfl
  | ok token =>
    rw [Except.bind]
    cases ends : token.isEnd <;> simp [Except.map, ends]

namespace Ready

variable {lexer : Lexer} {earlier : List Token} {stop : Except LexError Token}

/-- Consuming is scanning. -/
theorem consume (ready : Ready lexer) : lexer.consume.1 = lexer.scanner.scan.1 := by
  rw [← peek_eq, Lexer.peek, ready.running, ready.empty]

/-- A token that is handed out leaves the lexer at work, behind that token. -/
theorem step (ready : Ready lexer) {token : Token} (scanned : lexer.scanner.scan.1 = .ok token) :
    Ready lexer.consume.2 ∧ lexer.consume.2.scanner = lexer.scanner.scan.2 := by
  have consumed := lexer.consumed
  rw [ready.consume, scanned] at consumed
  generalize lexer.consume.2 = after at consumed ⊢
  cases consumed with
  | replayed running waiting => cases waiting.symm.trans ready.empty
  | scanned running empty scanned => exact ⟨⟨running, ready.more, empty⟩, rfl⟩

/-- **Iterating yields the tokens before the stop, and the error if that is one.**  Then it has
ended. -/
theorem drain (ready : Ready lexer) (comes : ComesTo lexer.scanner earlier stop) :
    lexer.drain.1 = earlier.map .ok ++ lastItems stop ∧ lexer.drain.2.done = true := by
  generalize stands : lexer.scanner = scanner at comes
  induction comes generalizing lexer with
  | ended scanned ends =>
    subst stands
    rw [drain_eq, next_of_consume ready.more, ready.consume, scanned]
    dsimp only
    rw [if_pos ends]
    exact ⟨rfl, rfl⟩
  | failed scanned =>
    subst stands
    rw [drain_eq, next_of_consume ready.more, ready.consume, scanned]
    dsimp only
    rw [drain_eq, next_of_done rfl]
    exact ⟨rfl, rfl⟩
  | token scanned more later ih =>
    subst stands
    obtain ⟨readyAfter, stands⟩ := ready.step scanned
    obtain ⟨items, finished⟩ := ih readyAfter stands
    rw [drain_eq, next_of_consume ready.more, ready.consume, scanned]
    simp only [more, Bool.false_eq_true, if_false]
    rw [items]
    exact ⟨rfl, finished⟩

/-- Collecting off a lexer is reading off its scanner. -/
theorem collect (ready : Ready lexer) (limit : Nat) :
    Lexer.collect limit lexer = Scanner.take limit lexer.scanner := by
  induction limit generalizing lexer with
  | zero => rfl
  | succ limit ih =>
    rw [collect_succ, Scanner.take_succ, ready.consume]
    cases scanned : lexer.scanner.scan.1 with
    | error error => rfl
    | ok token =>
      obtain ⟨readyAfter, stands⟩ := ready.step scanned
      rw [Except.bind, Except.bind, ih readyAfter, stands]

theorem peekMany (ready : Ready lexer) (count : Nat) :
    lexer.peekMany count = lexer.scanner.look count :=
  peekMany_empty ready.running ready.empty count

end Ready

end Lexer

/-- Collecting the first tokens of a text off its scanner is collecting them off a lexer. -/
theorem collectTokens_eq_collect (text : String) (limit : Nat) :
    collectTokens text limit
      = (Lexer.collect limit (Lexer.ofString text)).mapError (.lexical · text) := by
  rw [(Lexer.ready_ofString text).collect]
  rfl

section Stops

variable {text : String} {earlier : List Token} {stop : Except LexError Token}

theorem collectTokens_of_comesTo (comes : ComesTo (Scanner.ofString text) earlier stop)
    (limit : Nat) :
    collectTokens text limit
      = if limit ≤ earlier.length then .ok (earlier.take limit)
        else (stop.map fun final => earlier ++ [final]).mapError (.lexical · text) := by
  rw [collectTokens, comes.take]
  split <;> rfl

theorem peekMany_of_comesTo (comes : ComesTo (Scanner.ofString text) earlier stop) (count : Nat) :
    (Lexer.ofString text).peekMany count
      = if count ≤ earlier.length then .ok (earlier.take count)
        else stop.map fun final => earlier ++ List.replicate (count - earlier.length) final :=
  ((Lexer.ready_ofString text).peekMany count).trans (comes.look count)

/-- The first of the copies that looking beyond the stop repeats is the token that ends the input. -/
theorem append_copies {final : Token} {limit : Nat} (long : earlier.length < limit) :
    earlier ++ List.replicate (limit - earlier.length) final
      = earlier ++ [final] ++ List.replicate (limit - (earlier ++ [final]).length) final := by
  have copies : limit - earlier.length = limit - (earlier.length + 1) + 1 := by omega
  rw [copies, List.replicate_succ, List.append_cons, List.length_append]
  rfl

/-- Collecting from a text with an end gives the first of its tokens, and looking ahead gives the same and
then the end over and over. -/
theorem limits_of_end {final : Token} (comes : ComesTo (Scanner.ofString text) earlier (.ok final))
    (limit : Nat) :
    collectTokens text limit = .ok ((earlier ++ [final]).take limit)
      ∧ (Lexer.ofString text).peekMany limit = .ok ((earlier ++ [final]).take limit
          ++ List.replicate (limit - (earlier ++ [final]).length) final) := by
  rw [collectTokens_of_comesTo comes, peekMany_of_comesTo comes]
  by_cases short : limit ≤ earlier.length
  · have none : limit - (earlier ++ [final]).length = 0 := by
      rw [List.length_append]
      omega
    rw [if_pos short, if_pos short, List.take_append_of_le_length short, none,
      List.replicate_zero, List.append_nil]
    exact ⟨rfl, rfl⟩
  · have whole : (earlier ++ [final]).length ≤ limit := by
      rw [List.length_append]
      exact Nat.lt_of_not_le short
    rw [if_neg short, if_neg short, List.take_of_length_le whole,
      ← append_copies (Nat.lt_of_not_le short)]
    exact ⟨rfl, rfl⟩

/-- Both give as many of the tokens before an error as asked for, or the error if that is more. -/
theorem limits_of_error {error : LexError}
    (comes : ComesTo (Scanner.ofString text) earlier (.error error)) (limit : Nat) :
    (limit ≤ earlier.length → collectTokens text limit = .ok (earlier.take limit)
        ∧ (Lexer.ofString text).peekMany limit = .ok (earlier.take limit))
      ∧ (earlier.length < limit → collectTokens text limit = .error (.lexical error text)
        ∧ (Lexer.ofString text).peekMany limit = .error error) := by
  rw [collectTokens_of_comesTo comes, peekMany_of_comesTo comes]
  refine ⟨fun short => ?_, fun long => ?_⟩
  · rw [if_pos short, if_pos short]
    exact ⟨rfl, rfl⟩
  · rw [if_neg (Nat.not_le.mpr long), if_neg (Nat.not_le.mpr long)]
    exact ⟨rfl, rfl⟩

/-- The two outputs fail alike, and the one that looks ahead only adds copies of the end of the
input. -/
theorem outputs_of_comesTo (comes : ComesTo (Scanner.ofString text) earlier stop)
    (rendering : Rendering) {limit cap : Nat} (within : limit ≤ cap) :
    (∀ failure, aheadOutput rendering cap limit text = .error failure
        ↔ tokensOutput rendering limit text = .error failure)
    ∧ ∀ output, tokensOutput rendering limit text = .ok output →
        ∃ tokens copies final, collectTokens text limit = .ok tokens
          ∧ output = rendering.render tokens
          ∧ aheadOutput rendering cap limit text
              = .ok (rendering.render (tokens ++ List.replicate copies final))
          ∧ (0 < copies → tokens.getLast? = some final ∧ final.isEnd = true) := by
  have collected := collectTokens_of_comesTo comes limit
  have seen := peekMany_of_comesTo comes limit
  rw [tokensOutput, aheadOutput, Nat.min_eq_left within, collected, seen]
  by_cases short : limit ≤ earlier.length
  · rw [if_pos short, if_pos short]
    refine ⟨fun failure => Iff.rfl, fun output printed => ?_⟩
    obtain rfl := Except.ok.inj printed
    refine ⟨_, 0, ⟨.endOfInput endOfText, Pos.start⟩, rfl, rfl, ?_, fun some => by omega⟩
    rw [List.replicate_zero, List.append_nil]
    rfl
  · rw [if_neg short, if_neg short]
    cases stop with
    | error error => exact ⟨fun failure => Iff.rfl, fun output printed => by cases printed⟩
    | ok final =>
      refine ⟨fun failure => iff_of_false nofun nofun, fun output printed => ?_⟩
      obtain rfl := Except.ok.inj printed
      refine ⟨_, limit - (earlier ++ [final]).length, final, rfl, rfl, ?_,
        fun _ => ⟨by simp, comes.isEnd⟩⟩
      rw [← append_copies (Nat.lt_of_not_le short)]
      rfl

end Stops

/-- **The four ways to drain a text agree.**  If the text has an end, iterating yields its tokens without
the last, collecting gives the first of them, and looking ahead gives the same and then the end of the
input over and over.  If an error stops its lexing, iterating yields the tokens before the error and the
error, and the other two give as many of those tokens as asked for, or the error if that is more.
Iteration yields nothing else.  So the two outputs fail alike and otherwise print the same tokens, up to
copies of the end of the input. -/
theorem drains_agree (text : String) :
    (∀ tokens, tokenize text = .ok tokens → ∃ earlier final, tokens = earlier ++ [final]
      ∧ final.isEnd = true ∧ (∀ token ∈ earlier, token.isEnd = false)
      ∧ (Lexer.ofString text).drain.1 = earlier.map .ok
      ∧ ∀ limit, collectTokens text limit = .ok (tokens.take limit)
        ∧ (Lexer.ofString text).peekMany limit
            = .ok (tokens.take limit ++ List.replicate (limit - tokens.length) final))
    ∧ (∀ error, tokenize text = .error error → ∃ earlier,
      ComesTo (Scanner.ofString text) earlier (.error error)
      ∧ (Lexer.ofString text).drain.1 = earlier.map .ok ++ [.error error]
      ∧ ∀ limit,
        (limit ≤ earlier.length → collectTokens text limit = .ok (earlier.take limit)
          ∧ (Lexer.ofString text).peekMany limit = .ok (earlier.take limit))
        ∧ (earlier.length < limit → collectTokens text limit = .error (.lexical error text)
          ∧ (Lexer.ofString text).peekMany limit = .error error))
    ∧ (∀ operations, ((Lexer.ofString text).drain.2.run operations).2.next.1 = none)
    ∧ (∀ limit, collectTokens text limit
        = (Lexer.collect limit (Lexer.ofString text)).mapError (.lexical · text))
    ∧ ∀ (rendering : Rendering) (limit cap : Nat), limit ≤ cap →
      (∀ failure, aheadOutput rendering cap limit text = .error failure
        ↔ tokensOutput rendering limit text = .error failure)
      ∧ ∀ output, tokensOutput rendering limit text = .ok output →
        ∃ tokens copies final, collectTokens text limit = .ok tokens
          ∧ output = rendering.render tokens
          ∧ aheadOutput rendering cap limit text
              = .ok (rendering.render (tokens ++ List.replicate copies final))
          ∧ (0 < copies → tokens.getLast? = some final ∧ final.isEnd = true) := by
  obtain ⟨earlier, stop, comes⟩ := exists_comesTo (Scanner.ofString text)
  obtain ⟨items, finished⟩ := (Lexer.ready_ofString text).drain comes
  refine ⟨fun tokens done => ?_, fun error failed => ?_, fun operations => ?_,
    collectTokens_eq_collect text, fun rendering limit cap => outputs_of_comesTo comes rendering⟩
  · rw [comes.tokenize_eq] at done
    cases stop with
    | error error => cases done
    | ok final =>
      obtain rfl := Except.ok.inj done
      refine ⟨earlier, final, rfl, comes.isEnd, comes.goesOn, ?_, limits_of_end comes⟩
      rw [items, Lexer.lastItems, List.append_nil]
  · rw [comes.tokenize_eq] at failed
    cases stop with
    | ok final => cases failed
    | error first =>
      obtain rfl := Except.error.inj failed
      exact ⟨earlier, comes, items, limits_of_error comes⟩
  · rw [Lexer.next_of_done (Lexer.kept_done.run operations finished)]

/-- Looking ahead beyond the end of one text, and beyond a string that is never closed. -/
theorem drains_agree_beyond :
    tokenize "a" = .ok [⟨.identifier "a", ⟨1, 1, 1⟩⟩, ⟨.endOfInput '\x00', ⟨1, 1, 1⟩⟩]
      ∧ (collectTokens "a" 3
            = .ok [⟨.identifier "a", ⟨1, 1, 1⟩⟩, ⟨.endOfInput '\x00', ⟨1, 1, 1⟩⟩]
          ∧ (Lexer.ofString "a").peekMany 3
            = .ok [⟨.identifier "a", ⟨1, 1, 1⟩⟩, ⟨.endOfInput '\x00', ⟨1, 1, 1⟩⟩,
                ⟨.endOfInput '\x00', ⟨1, 1, 1⟩⟩])
      ∧ tokenize "a 'b" = .error ⟨.unterminatedString '\'', ⟨4, 1, 4⟩⟩
      ∧ collectTokens "a 'b" 2
          = .error (.lexical ⟨.unterminatedString '\'', ⟨4, 1, 4⟩⟩ "a 'b")
      ∧ ∃ earlier : List Token, (Lexer.ofString "a 'b").drain.1
          = earlier.map .ok ++ [.error ⟨.unterminatedString '\'', ⟨4, 1, 4⟩⟩] := by
  have done : tokenize "a"
      = .ok [⟨.identifier "a", ⟨1, 1, 1⟩⟩, ⟨.endOfInput '\x00', ⟨1, 1, 1⟩⟩] := by
    rw [tokenize_eq_take]
    decide +kernel
  have failed : tokenize "a 'b" = .error ⟨.unterminatedString '\'', ⟨4, 1, 4⟩⟩ := by
    rw [tokenize_eq_take]
    decide +kernel
  have seen : (Lexer.ofString "a 'b").peekMany 2
      = .error ⟨.unterminatedString '\'', ⟨4, 1, 4⟩⟩ := by
    decide +kernel
  obtain ⟨earlier, final, whole, -, -, -, limits⟩ := (drains_agree "a").1 _ done
  have last := congrArg List.getLast? whole
  rw [List.getLast?_concat] at last
  obtain rfl : _ = final := Option.some.inj last
  obtain ⟨before, -, drained, capped⟩ := (drains_agree "a 'b").2.1 _ failed
  have long : before.length < 2 := by
    by_contra short
    cases ((capped 2).1 (Nat.not_lt.mp short)).2.symm.trans seen
  exact ⟨done, limits 3, failed, ((capped 2).2 long).1, before, drained⟩

end ExprLexer
