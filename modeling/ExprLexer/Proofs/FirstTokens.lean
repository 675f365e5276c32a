import ExprLexer.Inspection
import ExprLexer.Proofs.FirstFault
import ExprLexer.Proofs.Stops

/-!
The first tokens of a text, told by the grammar.

* `Grammar.FirstTokens`: the first tokens of a text, up to a limit or to the end of the input, before
  which no token start is faulty;
* `Scanner.take_eq_ok_iff`: **reading up to a limit gives the first tokens, where a text has them**;
* `collectTokens_eq_ok_iff`, `exists_firstFault_of_collectTokens`: so does collecting, which otherwise
  fails with the first fault of the text;
* `Grammar.FirstTokens.eq_take`: the first tokens of a text without faults are the first of its tokens.
-/

namespace ExprLexer

open CharClass Grammar

namespace Grammar

/-- The first tokens of `chars`, up to a limit, with the characters `read` before it: blanks are
skipped, then the longest lexeme is taken, until there are enough, or until the text ends or a
character that ends the input comes.  Nothing faulty stands where one of them begins. -/
inductive FirstTokens : Nat → List Char → List Char → List Token → Prop
  | enough {read chars : List Char} : FirstTokens 0 read chars []
  | exhausted {limit : Nat} {read chars blanks : List Char} (skips : Skips chars blanks []) :
      FirstTokens (limit + 1) read chars [⟨.endOfInput endOfText, Pos.after (read ++ blanks)⟩]
  | sentinel {limit : Nat} {read chars blanks rest : List Char} {c : Char}
      (skips : Skips chars blanks (c :: rest)) (ends : isEndOfInput c = true) :
      FirstTokens (limit + 1) read chars [⟨.endOfInput c, Pos.after (read ++ blanks ++ [c])⟩]
  | token {limit : Nat} {read chars blanks solid spelling rest : List Char} {c : Char}
      {kind : TokenKind} {tokens : List Token} (skips : Skips chars blanks (c :: solid))
      (goesOn : isEndOfInput c = false) (lexeme : NextLexeme (c :: solid) kind spelling rest)
      (sound : ∀ cause shown, ¬ Faulty (c :: solid) cause shown)
      (later : FirstTokens limit (read ++ blanks ++ spelling) rest tokens) :
      FirstTokens (limit + 1) read chars
        (⟨kind, Pos.after (read ++ blanks ++ spelling)⟩ :: tokens)

/-- Unless none are asked for, there is a first token. -/
theorem FirstTokens.ne_nil {limit : Nat} {read chars : List Char} {tokens : List Token}
    (first : FirstTokens limit read chars tokens) (some : 1 ≤ limit) : tokens ≠ [] := by
  cases first with
  | enough => cases some
  | exhausted skips => exact List.cons_ne_nil _ _
  | sentinel skips ends => exact List.cons_ne_nil _ _
  | token skips goesOn lexeme sound later => exact List.cons_ne_nil _ _

end Grammar

namespace Scanner

variable {limit : Nat} {read chars : List Char} {tokens : List Token}

theorem take_behind_succ (limit : Nat) (read chars : List Char) :
    take (limit + 1) ⟨.behind read chars, none⟩
      = (scanFrom (.behind read chars)).1.bind fun token =>
          if token.isEnd then .ok [token]
          else (take limit (scanFrom (.behind read chars)).2).map (token :: ·) :=
  take_succ limit _

/-- What reading up to a limit gives are the first tokens. -/
theorem firstTokens_of_take (taken : take limit ⟨.behind read chars, none⟩ = .ok tokens) :
    FirstTokens limit read chars tokens := by
  induction limit generalizing read chars tokens with
  | zero =>
    obtain rfl := Except.ok.inj taken
    exact .enough
  | succ limit ih =>
    rw [take_behind_succ] at taken
    have scanned := scanned_scanFrom read chars
    generalize scanFrom (.behind read chars) = outcome at scanned taken
    cases scanned with
    | exhausted skips =>
      obtain rfl := Except.ok.inj taken
      exact .exhausted skips
    | sentinel skips ends =>
      obtain rfl := Except.ok.inj taken
      exact .sentinel skips ends
    | @token blanks solid spelling rest c kind skips goesOn lexeme sound =>
      have more : Token.isEnd ⟨kind, Pos.after (read ++ blanks ++ spelling)⟩ = false :=
        lexeme.spells.isEnd
      rw [Except.bind, more, if_neg Bool.false_ne_true] at taken
      cases later : take limit ⟨.behind (read ++ blanks ++ spelling) rest, none⟩ with
      | error error =>
        rw [later] at taken
        cases taken
      | ok others =>
        rw [later] at taken
        obtain rfl := Except.ok.inj taken
        exact .token skips goesOn lexeme sound (ih later)
    | fault skips faulty => cases taken

/-- The first tokens are read. -/
theorem take_of_firstTokens (first : FirstTokens limit read chars tokens) :
    take limit ⟨.behind read chars, none⟩ = .ok tokens := by
  induction first with
  | enough => rfl
  | exhausted skips =>
    rw [take_behind_succ, scanFrom_of_scanned (.exhausted skips)]
    rfl
  | sentinel skips ends =>
    rw [take_behind_succ, scanFrom_of_scanned (.sentinel skips ends)]
    rfl
  | @token limit read chars blanks solid spelling rest c kind tokens skips goesOn lexeme sound
      later ih =>
    have more : Token.isEnd ⟨kind, Pos.after (read ++ blanks ++ spelling)⟩ = false :=
      lexeme.spells.isEnd
    rw [take_behind_succ, scanFrom_of_scanned (.token skips goesOn lexeme sound), Except.bind, more,
      if_neg Bool.false_ne_true, ih]
    rfl

/-- **Reading up to a limit gives the first tokens, where a text has them.** -/
theorem take_eq_ok_iff {text : String} :
    take limit (ofString text) = .ok tokens ↔ FirstTokens limit [] text.toList tokens :=
  ⟨@firstTokens_of_take limit [] text.toList tokens, take_of_firstTokens⟩

end Scanner

variable {text : String} {limit : Nat} {tokens : List Token}

/-- The first tokens of a text without faults are the first of its tokens. -/
theorem Grammar.FirstTokens.eq_take {all : List Token}
    (first : FirstTokens limit [] text.toList tokens) (whole : tokenize text = .ok all) :
    tokens = all.take limit := by
  obtain ⟨earlier, stop, comes⟩ := Scanner.exists_comesTo (Scanner.ofString text)
  have taken := Scanner.take_eq_ok_iff.mpr first
  rw [comes.take] at taken
  rw [comes.tokenize_eq] at whole
  cases stop with
  | error error => cases whole
  | ok final =>
    obtain rfl := Except.ok.inj whole
    by_cases short : limit ≤ earlier.length
    · rw [if_pos short] at taken
      rw [List.take_append_of_le_length short]
      exact (Except.ok.inj taken).symm
    · rw [if_neg short] at taken
      rw [List.take_of_length_le (by simpa using Nat.succ_le_of_lt (Nat.lt_of_not_le short))]
      exact (Except.ok.inj taken).symm

/-- **Collecting gives the first tokens, where a text has them.** -/
theorem collectTokens_eq_ok_iff :
    collectTokens text limit = .ok tokens ↔ FirstTokens limit [] text.toList tokens := by
  rw [← Scanner.take_eq_ok_iff, collectTokens]
  cases Scanner.take limit (Scanner.ofString text) with
  | error error => exact iff_of_false nofun nofun
  | ok taken => rw [Except.mapError, Except.ok.injEq, Except.ok.injEq]

/-- Collecting that fails shows the first fault of the text. -/
theorem exists_firstFault_of_collectTokens {failure : Failure}
    (failed : collectTokens text limit = .error failure) :
    ∃ error, FirstFault [] text.toList error ∧ failure = .lexical error text := by
  rw [collectTokens] at failed
  cases taken : Scanner.take limit (Scanner.ofString text) with
  | ok tokens =>
    rw [taken] at failed
    cases failed
  | error error =>
    rw [taken] at failed
    exact ⟨error, (tokenize_error_iff text error).mp (Scanner.tokenize_of_take_error taken),
      (Except.error.inj failed).symm⟩

end ExprLexer
