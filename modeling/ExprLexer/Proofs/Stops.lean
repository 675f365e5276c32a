import ExprLexer.Proofs.Lexing
import ExprLexer.Proofs.Lookahead

/-!
What stops the lexing of a text, and what reading its first tokens makes of that.

* `Scanner.ComesTo`: a scanner reads some tokens and then comes to the token that ends the input, or
  to an error;
* `Scanner.exists_comesTo`: **every scanner comes to a stop**;
* `Scanner.ComesTo.take`, `Scanner.ComesTo.look`: the first tokens and the next tokens in closed form;
* `Scanner.ComesTo.tokenize_eq`: all tokens in closed form;
* `Scanner.ComesTo.result`: the results of scanning a text that has an end;
* `Scanner.tokenize_of_take_error`, `Scanner.tokenize_of_look_error`: an error that the first tokens of a
  text give is the error of the text.

Every function that walks over the tokens of a text stops at the same place and differs from the
others only in what it makes of the stop.  So `ComesTo` is proved once for each of them, by induction
on the tokens before the stop.
-/

namespace ExprLexer

namespace Scanner

/-- Scanning reads the tokens `earlier`, none of which ends the input, and then comes to a stop: the
token that ends the input, or an error. -/
inductive ComesTo : Scanner → List Token → Except LexError Token → Prop
  | ended {scanner : Scanner} {final : Token} (scanned : scanner.scan.1 = .ok final)
      (ends : final.isEnd = true) : ComesTo scanner [] (.ok final)
  | failed {scanner : Scanner} {error : LexError} (scanned : scanner.scan.1 = .error error) :
      ComesTo scanner [] (.error error)
  | token {scanner : Scanner} {token : Token} {earlier : List Token} {stop : Except LexError Token}
      (scanned : scanner.scan.1 = .ok token) (more : token.isEnd = false)
      (later : ComesTo scanner.scan.2 earlier stop) : ComesTo scanner (token :: earlier) stop

/-! ### Coming to a stop -/

/-- A token that does not end the input is read off a scanner whose input did not end. -/
theorem ended_eq_none_of_scan {scanner : Scanner} {token : Token}
    (scanned : scanner.scan.1 = .ok token) (more : token.isEnd = false) :
    scanner.ended = none ∧ scanner.scan.2.ended = none := by
  constructor
  · cases ended : scanner.ended with
    | none => rfl
    | some final =>
      rw [scan, ended] at scanned
      obtain rfl := Except.ok.inj scanned
      cases more
  · cases ended : scanner.scan.2.ended with
    | none => rfl
    | some final =>
      have final := ended_scan.mp ended
      obtain rfl := Except.ok.inj (scanned.symm.trans final)
      cases more

/-- **Every scanner comes to a stop.** -/
theorem exists_comesTo (scanner : Scanner) : ∃ earlier stop, ComesTo scanner earlier stop := by
  -- a token that does not end the input leaves less to read
  induction remaining : scanner.state.rest.length using Nat.strong_induction_on
      generalizing scanner with
  | _ count ih =>
    cases scanned : scanner.scan.1 with
    | error error => exact ⟨[], _, .failed scanned⟩
    | ok token =>
      cases more : token.isEnd with
      | true => exact ⟨[], _, .ended scanned more⟩
      | false =>
        have shorter := scan_shortens (ended_eq_none_of_scan scanned more).1 scanned more
        obtain ⟨earlier, stop, later⟩ := ih _ (remaining ▸ shorter) scanner.scan.2 rfl
        exact ⟨token :: earlier, stop, .token scanned more later⟩

/-! ### One token further -/

theorem take_succ (limit : Nat) (scanner : Scanner) :
    take (limit + 1) scanner
      = scanner.scan.1.bind fun token =>
          if token.isEnd then .ok [token]
          else (take limit scanner.scan.2).map (token :: ·) := by
  rw [take]
  generalize scanner.scan = outcome
  obtain ⟨scanned, after⟩ := outcome
  cases scanned <;> rfl

/-- A scanner that only repeats a token shows nothing else. -/
theorem look_of_repeats {scanner : Scanner} {token : Token}
    (repeats : scanner.scan = (.ok token, scanner)) (count : Nat) :
    scanner.look count = .ok (List.replicate count token) := by
  induction count with
  | zero => rfl
  | succ count ih =>
    rw [look_succ, repeats, Except.bind, ih]
    rfl

/-! ### What is read before a stop -/

namespace ComesTo

variable {scanner : Scanner} {earlier : List Token} {stop : Except LexError Token}

/-- Only the last token read may end the input. -/
theorem goesOn (comes : ComesTo scanner earlier stop) : ∀ token ∈ earlier, token.isEnd = false := by
  induction comes with
  | ended scanned ends => exact List.forall_mem_nil _
  | failed scanned => exact List.forall_mem_nil _
  | token scanned more later ih => exact List.forall_mem_cons.mpr ⟨more, ih⟩

theorem isEnd {final : Token} (comes : ComesTo scanner earlier (.ok final)) : final.isEnd = true := by
  generalize outcome : (Except.ok final : Except LexError Token) = stop at comes
  induction comes with
  | ended scanned ends =>
    obtain rfl := Except.ok.inj outcome
    exact ends
  | failed scanned => cases outcome
  | token scanned more later ih => exact ih outcome

/-- Every token read takes a character. -/
theorem length_le (comes : ComesTo scanner earlier stop) :
    earlier.length ≤ scanner.state.rest.length := by
  induction comes with
  | ended scanned ends => exact Nat.zero_le _
  | failed scanned => exact Nat.zero_le _
  | token scanned more later ih =>
    have shorter := scan_shortens (ended_eq_none_of_scan scanned more).1 scanned more
    rw [List.length_cons]
    omega

/-! ### Closed forms -/

/-- The first tokens are those before the stop; a limit beyond them comes to the stop. -/
theorem take (comes : ComesTo scanner earlier stop) (limit : Nat) :
    Scanner.take limit scanner
      = if limit ≤ earlier.length then .ok (earlier.take limit)
        else stop.map fun final => earlier ++ [final] := by
  induction comes generalizing limit with
  | ended scanned ends =>
    cases limit with
    | zero => rfl
    | succ limit =>
      rw [take_succ, scanned, Except.bind, if_pos ends]
      rfl
  | failed scanned =>
    cases limit with
    | zero => rfl
    | succ limit =>
      rw [take_succ, scanned]
      rfl
  | @token scanner token earlier stop scanned more later ih =>
    cases limit with
    | zero => rfl
    | succ limit =>
      rw [take_succ, scanned, Except.bind, more, if_neg Bool.false_ne_true, ih]
      simp only [List.length_cons, Nat.add_le_add_iff_right, List.take_succ_cons, List.cons_append]
      split
      · rfl
      · cases stop <;> rfl

/-- The next tokens are those before the stop; looking beyond them repeats the end of the input, or
comes to the error. -/
theorem look (comes : ComesTo scanner earlier stop) (count : Nat) :
    scanner.look count
      = if count ≤ earlier.length then .ok (earlier.take count)
        else stop.map fun final => earlier ++ List.replicate (count - earlier.length) final := by
  induction comes generalizing count with
  | ended scanned ends =>
    cases count with
    | zero => rfl
    | succ count =>
      -- behind the end of the input only copies of it come
      rw [look_succ, scanned, Except.bind, look_of_repeats (scan_of_isEnd scanned ends)]
      rfl
  | failed scanned =>
    cases count with
    | zero => rfl
    | succ count =>
      rw [look_succ, scanned]
      rfl
  | @token scanner token earlier stop scanned more later ih =>
    cases count with
    | zero => rfl
    | succ count =>
      rw [look_succ, scanned, Except.bind, ih]
      simp only [List.length_cons, Nat.add_le_add_iff_right, List.take_succ_cons, List.cons_append,
        Nat.add_sub_add_right]
      split
      · rfl
      · cases stop <;> rfl

/-- All tokens of a text are those before the stop and the one that ends the input. -/
theorem tokenize_eq {source : String} (comes : ComesTo (ofString source) earlier stop) :
    tokenize source = stop.map fun final => earlier ++ [final] := by
  have bounded : earlier.length ≤ source.toList.length := comes.length_le
  rw [tokenize_eq_take, comes.take, if_neg (by omega)]

/-! ### Results -/

/-- A scan leaves the other tokens before the end of the input. -/
theorem scan {final : Token} (comes : ComesTo scanner earlier (.ok final)) :
    scanner.scan.1 = .ok (earlier.headD final) ∧ ComesTo scanner.scan.2 earlier.tail (.ok final) := by
  have ends := comes.isEnd
  cases comes with
  | ended scanned ends =>
    have again := congrArg Prod.fst (scan_of_isEnd scanned ends)
    exact ⟨scanned, .ended again ends⟩
  | token scanned more later => exact ⟨scanned, later⟩

/-- The results of scanning a text that has an end are its tokens, and that end over and over. -/
theorem result {source : String} {final : Token}
    (comes : ComesTo (ofString source) earlier (.ok final)) (count : Nat) :
    Scanner.result source count = .ok (earlier.getD count final) := by
  have behind : ComesTo (after source count) (earlier.drop count) (.ok final) := by
    induction count with
    | zero => exact comes
    | succ count ih =>
      rw [← List.tail_drop]
      exact ih.scan.2
  rw [Scanner.result, behind.scan.1]
  simp [List.headD_eq_head?_getD]

end ComesTo

/-- An error among the first tokens of a text is the error of the text. -/
theorem tokenize_of_take_error {source : String} {limit : Nat} {error : LexError}
    (failed : take limit (ofString source) = .error error) : tokenize source = .error error := by
  obtain ⟨earlier, stop, comes⟩ := exists_comesTo (ofString source)
  rw [comes.take] at failed
  split at failed
  · cases failed
  · rw [comes.tokenize_eq, map_eq_error_iff]
    exact map_eq_error_iff.mp failed

/-- An error that is seen ahead is the error of the text. -/
theorem tokenize_of_look_error {source : String} {count : Nat} {error : LexError}
    (failed : look count (ofString source) = .error error) : tokenize source = .error error := by
  obtain ⟨earlier, stop, comes⟩ := exists_comesTo (ofString source)
  rw [comes.look] at failed
  split at failed
  · cases failed
  · rw [comes.tokenize_eq, map_eq_error_iff]
    exact map_eq_error_iff.mp failed

/-- Two texts with the same tokens have the same results of scanning. -/
theorem result_congr {source other : String} {tokens : List Token}
    (done : tokenize source = .ok tokens) (same : tokenize other = .ok tokens) :
    result source = result other := by
  obtain ⟨earlier, stop, comes⟩ := exists_comesTo (ofString source)
  obtain ⟨earlier', stop', comes'⟩ := exists_comesTo (ofString other)
  rw [comes.tokenize_eq] at done
  rw [comes'.tokenize_eq] at same
  cases stop with
  | error error => cases done
  | ok final =>
    cases stop' with
    | error error => cases same
    | ok final' =>
      have level : earlier ++ [final] = earlier' ++ [final'] :=
        Except.ok.inj (done.trans same.symm)
      obtain ⟨rfl, last⟩ := List.append_inj' level rfl
      obtain rfl := List.singleton_inj.mp last
      funext count
      rw [comes.result, comes'.result]

end Scanner

end ExprLexer
