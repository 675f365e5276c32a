import ExprLexer.Proofs.Faults
import ExprLexer.Proofs.Positions
import ExprLexer.Scanner

/-!
Scanning, told by the grammar.

* `Scanned`: what one scan of a text can come to;
* `scanned_scanFrom`: **a scan comes to that**: the end of the text, a character that ends the
  input, the next lexeme, or a fault;
* `Scanned.unique`, `scanFrom_of_scanned`: and to nothing else;
* `Lexing`: how the lexing of a whole text can end;
* `lexing_tokensFrom`: **reading all tokens of a text ends like that**;
* `Lexing.tokensFrom_eq`, `lexing_tokenize_iff`: and there is no other way for it to end;
* `tokenize_eq_take`: reading all tokens is reading with a limit that the text does not reach.

`lexing_tokensFrom` holds the one induction on what is left of a text.  All that is said of whole
texts is then said by induction on `Lexing`.
-/

namespace ExprLexer

open CharClass Grammar

/-! ### One scan -/

/-- What a scan of `chars` comes to, with the characters `read` before it. -/
inductive Scanned (read chars : List Char) : Except LexError Token × Scanner → Prop
  | exhausted {blanks : List Char} (skips : Skips chars blanks []) :
      Scanned read chars
        (.ok ⟨.endOfInput endOfText, Pos.after (read ++ blanks)⟩,
          ⟨.behind (read ++ blanks) [], some (endOfText, Pos.after (read ++ blanks))⟩)
  | sentinel {blanks rest : List Char} {c : Char} (skips : Skips chars blanks (c :: rest))
      (ends : isEndOfInput c = true) :
      Scanned read chars
        (.ok ⟨.endOfInput c, Pos.after (read ++ blanks ++ [c])⟩,
          ⟨.behind (read ++ blanks ++ [c]) rest, some (c, Pos.after (read ++ blanks ++ [c]))⟩)
  | token {blanks solid spelling rest : List Char} {c : Char} {kind : TokenKind}
      (skips : Skips chars blanks (c :: solid)) (goesOn : isEndOfInput c = false)
      (lexeme : NextLexeme (c :: solid) kind spelling rest)
      (sound : ∀ cause shown, ¬ Faulty (c :: solid) cause shown) :
      Scanned read chars
        (.ok ⟨kind, Pos.after (read ++ blanks ++ spelling)⟩,
          ⟨.behind (read ++ blanks ++ spelling) rest, none⟩)
  | fault {blanks solid shown rest : List Char} {c : Char} {cause : LexError.Cause}
      (skips : Skips chars blanks (c :: solid)) (faulty : Faulty (c :: solid) cause shown) :
      Scanned read chars
        (.error ⟨cause, Pos.after (read ++ blanks ++ shown)⟩,
          ⟨.behind (read ++ blanks ++ shown) rest, none⟩)

theorem Grammar.Spells.isEnd {kind : TokenKind} {chars : List Char} (spelled : Spells kind chars) :
    kind.isEnd = false := by
  cases spelled <;> rfl

theorem Scanner.behind_of_running {token : Token} (more : token.isEnd = false)
    (state : ReadState) : behind token state = ⟨state, none⟩ := by
  unfold behind
  split
  · next c kind => simp [Token.isEnd, kind, TokenKind.isEnd] at more
  · rfl

/-- **A scan comes to the end of the input, to the next lexeme, or to a fault.** -/
theorem scanned_scanFrom (read chars : List Char) :
    Scanned read chars (Scanner.scanFrom (.behind read chars)) := by
  have skips : Skips chars (chars.takeWhile isBlank) (chars.dropWhile isBlank) :=
    skips_iff.mpr ⟨rfl, rfl⟩
  have start : Scanner.scanFrom (.behind read chars)
      = Scanner.scanHere (Mark.start.advance (read ++ chars.takeWhile isBlank))
          (chars.dropWhile isBlank) := by
    rw [Mark.advance_append]
    rfl
  rw [start]
  generalize chars.takeWhile isBlank = blanks at skips ⊢
  generalize chars.dropWhile isBlank = solid at skips ⊢
  cases solid with
  | nil =>
    rw [Scanner.scanHere, Mark.pos_advance_start]
    exact .exhausted skips
  | cons c rest =>
    rw [Scanner.scanHere]
    cases ends : isEndOfInput c with
    | true =>
      rw [Lexeme.read, if_pos ends]
      simp only [Scanner.behind, ← Mark.advance_append, Mark.pos_advance_start]
      exact .sentinel skips ends
    | false =>
      cases outcome : Lexeme.read c rest with
      | ok lexeme =>
        have next := nextLexeme_of_read ends (skips.maximal c rfl) outcome
        have sound : ∀ cause shown, ¬ Faulty (c :: rest) cause shown := by
          intro cause shown faulty
          obtain ⟨after, failed⟩ := read_of_faulty faulty
          rw [outcome] at failed
          cases failed
        have running : ∀ pos, Token.isEnd ⟨lexeme.kind, pos⟩ = false := fun _ => next.spells.isEnd
        simp only [Scanner.behind_of_running (running _), ← Mark.advance_append,
          Mark.pos_advance_start]
        exact .token skips ends next sound
      | error fault =>
        simp only [← Mark.advance_append, Mark.pos_advance_start]
        exact .fault skips (faulty_of_read outcome)

/-- A scan can come to one thing only; what is left behind a fault is not said. -/
theorem Scanned.unique {read chars : List Char} {one other : Except LexError Token × Scanner}
    (first : Scanned read chars one) (second : Scanned read chars other) :
    one.1 = other.1 ∧ ∀ token, one.1 = .ok token → one = other := by
  cases first with
  | exhausted skips =>
    cases second with
    | exhausted skips' =>
      obtain ⟨rfl, -⟩ := skips.unique skips'
      exact ⟨rfl, fun _ _ => rfl⟩
    | sentinel skips' ends => cases (skips.unique skips').2
    | token skips' goesOn lexeme sound => cases (skips.unique skips').2
    | fault skips' faulty => cases (skips.unique skips').2
  | sentinel skips ends =>
    cases second with
    | exhausted skips' => cases (skips.unique skips').2
    | sentinel skips' ends' =>
      obtain ⟨rfl, same⟩ := skips.unique skips'
      obtain ⟨rfl, rfl⟩ := List.cons.inj same
      exact ⟨rfl, fun _ _ => rfl⟩
    | token skips' goesOn lexeme sound =>
      obtain ⟨rfl, -⟩ := List.cons.inj (skips.unique skips').2
      simp [ends] at goesOn
    | fault skips' faulty =>
      obtain ⟨rfl, -⟩ := List.cons.inj (skips.unique skips').2
      simp [faulty.goesOn] at ends
  | token skips goesOn lexeme sound =>
    cases second with
    | exhausted skips' => cases (skips.unique skips').2
    | sentinel skips' ends =>
      obtain ⟨rfl, -⟩ := List.cons.inj (skips.unique skips').2
      simp [ends] at goesOn
    | token skips' goesOn' lexeme' sound' =>
      obtain ⟨rfl, same⟩ := skips.unique skips'
      rw [← same] at lexeme'
      obtain ⟨rfl, rfl, rfl⟩ := lexeme.unique lexeme'
      exact ⟨rfl, fun _ _ => rfl⟩
    | fault skips' faulty =>
      obtain ⟨rfl, same⟩ := skips.unique skips'
      exact absurd (same ▸ faulty) (sound _ _)
  | fault skips faulty =>
    cases second with
    | exhausted skips' => cases (skips.unique skips').2
    | sentinel skips' ends =>
      obtain ⟨rfl, -⟩ := List.cons.inj (skips.unique skips').2
      simp [faulty.goesOn] at ends
    | token skips' goesOn lexeme sound =>
      obtain ⟨rfl, same⟩ := skips.unique skips'
      exact absurd (same ▸ faulty) (sound _ _)
    | fault skips' faulty' =>
      obtain ⟨rfl, same⟩ := skips.unique skips'
      rw [← same] at faulty'
      obtain ⟨rfl, rfl⟩ := faulty.unique faulty'
      exact ⟨rfl, nofun⟩

/-- A scan that can come to a token comes to it. -/
theorem scanFrom_of_scanned {read chars : List Char} {token : Token} {after : Scanner}
    (scanned : Scanned read chars (.ok token, after)) :
    Scanner.scanFrom (.behind read chars) = (.ok token, after) :=
  ((scanned.unique (scanned_scanFrom read chars)).2 token rfl).symm

/-! ### The whole text -/

/-- How the lexing of `chars` ends, with the characters `read` before it. -/
inductive Lexing : List Char → List Char → Except LexError (List Token) → Prop
  | exhausted {read chars blanks : List Char} (skips : Skips chars blanks []) :
      Lexing read chars (.ok [⟨.endOfInput endOfText, Pos.after (read ++ blanks)⟩])
  | sentinel {read chars blanks rest : List Char} {c : Char} (skips : Skips chars blanks (c :: rest))
      (ends : isEndOfInput c = true) :
      Lexing read chars (.ok [⟨.endOfInput c, Pos.after (read ++ blanks ++ [c])⟩])
  | token {read chars blanks solid spelling rest : List Char} {c : Char} {kind : TokenKind}
      {outcome : Except LexError (List Token)} (skips : Skips chars blanks (c :: solid))
      (goesOn : isEndOfInput c = false) (lexeme : NextLexeme (c :: solid) kind spelling rest)
      (sound : ∀ cause shown, ¬ Faulty (c :: solid) cause shown)
      (later : Lexing (read ++ blanks ++ spelling) rest outcome) :
      Lexing read chars (outcome.map (⟨kind, Pos.after (read ++ blanks ++ spelling)⟩ :: ·))
  | fault {read chars blanks solid shown : List Char} {c : Char} {cause : LexError.Cause}
      (skips : Skips chars blanks (c :: solid)) (faulty : Faulty (c :: solid) cause shown) :
      Lexing read chars (.error ⟨cause, Pos.after (read ++ blanks ++ shown)⟩)

theorem Scanner.tokensFrom_eq (state : ReadState) :
    tokensFrom state
      = match scanFrom state with
        | (.error error, _) => .error error
        | (.ok token, next) =>
          if token.isEnd = false then (tokensFrom next.state).map (token :: ·) else .ok [token] := by
  rw [tokensFrom]
  split
  · next scanned => rw [scanned]
  · next token next scanned =>
    rw [scanned]
    split
    · next more => exact (if_pos more).symm
    · next more => exact (if_neg more).symm

/-- Less is left behind a lexeme. -/
theorem length_lt_of_token {chars blanks front spelling rest : List Char} {kind : TokenKind}
    (skips : Skips chars blanks front) (lexeme : NextLexeme front kind spelling rest) :
    rest.length < chars.length := by
  have some := List.length_pos_iff.mpr lexeme.spells.ne_nil
  have whole := congrArg List.length skips.whole
  have cut := congrArg List.length lexeme.whole
  simp only [List.length_append] at whole cut
  omega

/-- **Reading all tokens of a text ends as the grammar says.** -/
theorem lexing_tokensFrom (read chars : List Char) :
    Lexing read chars (Scanner.tokensFrom (.behind read chars)) := by
  -- every lexeme has a character, so that less is left behind it
  induction remaining : chars.length using Nat.strong_induction_on generalizing read chars with
  | _ count ih =>
    rw [Scanner.tokensFrom_eq]
    generalize scan : Scanner.scanFrom (.behind read chars) = outcome
    have scanned := scanned_scanFrom read chars
    rw [scan] at scanned
    cases scanned with
    | exhausted skips => exact .exhausted skips
    | sentinel skips ends => exact .sentinel skips ends
    | @token blanks solid spelling rest c kind skips goesOn lexeme sound =>
      have more : Token.isEnd ⟨kind, Pos.after (read ++ blanks ++ spelling)⟩ = false :=
        lexeme.spells.isEnd
      simp only [more, if_true]
      have shorter : rest.length < count := remaining ▸ length_lt_of_token skips lexeme
      exact .token skips goesOn lexeme sound (ih rest.length shorter _ rest rfl)
    | fault skips faulty => exact .fault skips faulty

/-- A lexing that can end in some way ends so. -/
theorem Lexing.tokensFrom_eq {read chars : List Char} {outcome : Except LexError (List Token)}
    (lexing : Lexing read chars outcome) : Scanner.tokensFrom (.behind read chars) = outcome := by
  induction lexing with
  | exhausted skips =>
    rw [Scanner.tokensFrom_eq, scanFrom_of_scanned (.exhausted skips)]
    rfl
  | sentinel skips ends =>
    rw [Scanner.tokensFrom_eq, scanFrom_of_scanned (.sentinel skips ends)]
    rfl
  | @token read _ blanks _ spelling _ _ kind _ skips goesOn lexeme sound later ih =>
    have more : Token.isEnd ⟨kind, Pos.after (read ++ blanks ++ spelling)⟩ = false :=
      lexeme.spells.isEnd
    rw [Scanner.tokensFrom_eq, scanFrom_of_scanned (.token skips goesOn lexeme sound)]
    simp only [more, if_true]
    rw [ih]
  | @fault read chars blanks _ shown _ cause skips faulty =>
    have fault : Scanned read chars (.error ⟨cause, Pos.after (read ++ blanks ++ shown)⟩,
        ⟨.behind (read ++ blanks ++ shown) [], none⟩) :=
      .fault skips faulty
    have failed := ((scanned_scanFrom read chars).unique fault).1
    rw [Scanner.tokensFrom_eq]
    generalize Scanner.scanFrom (.behind read chars) = scan at failed ⊢
    obtain ⟨result, after⟩ := scan
    obtain rfl : result = _ := failed
    rfl

/-- A limit above the number of characters left is none. -/
theorem Scanner.tokensFrom_eq_take (read chars : List Char) {limit : Nat}
    (enough : chars.length < limit) :
    tokensFrom (.behind read chars) = take limit ⟨.behind read chars, none⟩ := by
  induction limit generalizing read chars with
  | zero => omega
  | succ limit ih =>
    rw [tokensFrom_eq, take, scan]
    dsimp only
    generalize scan : scanFrom (.behind read chars) = outcome
    have scanned := scanned_scanFrom read chars
    rw [scan] at scanned
    cases scanned with
    | exhausted skips => rfl
    | sentinel skips ends => rfl
    | @token blanks solid spelling rest c kind skips goesOn lexeme sound =>
      have more : Token.isEnd ⟨kind, Pos.after (read ++ blanks ++ spelling)⟩ = false :=
        lexeme.spells.isEnd
      have shorter := length_lt_of_token skips lexeme
      simp only [more, if_true, Bool.false_eq_true, if_false]
      rw [ih _ rest (by omega)]
    | fault skips faulty => rfl

/-- All tokens of a text are its first ones, as many as it has characters and one more. -/
theorem tokenize_eq_take (source : String) :
    tokenize source = Scanner.take (source.toList.length + 1) (Scanner.ofString source) :=
  Scanner.tokensFrom_eq_take [] source.toList (Nat.lt_succ_self _)

theorem lexing_tokenize (source : String) : Lexing [] source.toList (tokenize source) :=
  lexing_tokensFrom [] source.toList

/-- All tokens of a text are read exactly as its lexing ends. -/
theorem lexing_tokenize_iff {source : String} {outcome : Except LexError (List Token)} :
    Lexing [] source.toList outcome ↔ tokenize source = outcome := by
  constructor
  · exact Lexing.tokensFrom_eq
  · rintro rfl
    exact lexing_tokenize source

end ExprLexer
