import ExprLexer.Proofs.Lexing
import ExprLexer.Proofs.Lookahead

/-!
Which error a text gives: that of the first token start at which it is faulty.

* `Grammar.TokenStart`: the places of a text where its lexing comes to a token;
* `Grammar.FirstFault`: the error of the first faulty one;
* `FirstFault.of_lexing`, `not_faulty_of_lexing`: a lexing fails with that error, and succeeds only
  if no token start is faulty;
* `Lexer.Coherent.scanned_of_error`: **every error of a lexer is the result of a scan**;
* `tokenize_firstFault`: **a text gives the error of its first faulty token start**, and no lexer
  complains of the first character of an identifier.
-/

namespace ExprLexer

open CharClass Grammar

namespace Grammar

/-! ### Token starts -/

/-- The lexing of `chars`, with the characters `read` before it, comes to a token (or to the end)
where `solid` is left and `before` was read. -/
inductive TokenStart : List Char → List Char → List Char → List Char → Prop
  | here {read chars blanks solid : List Char} (skips : Skips chars blanks solid) :
      TokenStart read chars (read ++ blanks) solid
  | later {read chars blanks rest spelling behind before solid : List Char} {c : Char}
      {kind : TokenKind} (skips : Skips chars blanks (c :: rest)) (goesOn : isEndOfInput c = false)
      (lexeme : NextLexeme (c :: rest) kind spelling behind)
      (start : TokenStart (read ++ blanks ++ spelling) behind before solid) :
      TokenStart read chars before solid

namespace TokenStart

variable {read chars before solid : List Char}

theorem whole (start : TokenStart read chars before solid) : before ++ solid = read ++ chars := by
  induction start with
  | here skips => rw [← skips.whole, List.append_assoc]
  | later skips goesOn lexeme start ih =>
    rw [ih, ← skips.whole, ← lexeme.whole]
    simp only [List.append_assoc]

theorem length_le (start : TokenStart read chars before solid) : read.length ≤ before.length := by
  induction start with
  | here skips =>
    rw [List.length_append]
    omega
  | later skips goesOn lexeme start ih =>
    simp only [List.length_append] at ih
    omega

/-- The first token begins behind the blanks, the others behind the lexeme that follows these. -/
theorem split {blanks front : List Char} (start : TokenStart read chars before solid)
    (skips : Skips chars blanks front) :
    (before = read ++ blanks ∧ solid = front)
      ∨ ∃ c rest kind spelling behind, front = c :: rest ∧ isEndOfInput c = false
        ∧ NextLexeme (c :: rest) kind spelling behind
        ∧ TokenStart (read ++ blanks ++ spelling) behind before solid := by
  cases start with
  | here skips' =>
    obtain ⟨rfl, rfl⟩ := skips.unique skips'
    exact Or.inl ⟨rfl, rfl⟩
  | later skips' goesOn lexeme start =>
    obtain ⟨rfl, rfl⟩ := skips.unique skips'
    exact Or.inr ⟨_, _, _, _, _, rfl, goesOn, lexeme, start⟩

end TokenStart

/-! ### The first fault -/

/-- The error of the first token start at which `chars` is faulty. -/
def FirstFault (read chars : List Char) (error : LexError) : Prop :=
  ∃ before solid shown, TokenStart read chars before solid
    ∧ Faulty solid error.cause shown
    ∧ error.pos = Pos.after (before ++ shown)
    ∧ ∀ before' solid' cause' shown', TokenStart read chars before' solid' →
        Faulty solid' cause' shown' → before.length ≤ before'.length

theorem FirstFault.unique {read chars : List Char} {first second : LexError}
    (one : FirstFault read chars first) (other : FirstFault read chars second) :
    first = second := by
  obtain ⟨before, solid, shown, start, faulty, stands, least⟩ := one
  obtain ⟨before', solid', shown', start', faulty', stands', least'⟩ := other
  have level : before.length = before'.length :=
    Nat.le_antisymm (least _ _ _ _ start' faulty') (least' _ _ _ _ start faulty)
  obtain ⟨rfl, rfl⟩ := List.append_inj (start.whole.trans start'.whole.symm) level
  obtain ⟨cause, rfl⟩ := faulty.unique faulty'
  obtain ⟨firstCause, firstPos⟩ := first
  obtain ⟨secondCause, secondPos⟩ := second
  rw [LexError.mk.injEq]
  exact ⟨cause, stands.trans stands'.symm⟩

/-- No token start of a text is faulty if its lexing succeeds. -/
theorem not_faulty_of_lexing {read chars : List Char} {outcome : Except LexError (List Token)}
    (lexing : Lexing read chars outcome) :
    ∀ tokens, outcome = .ok tokens → ∀ before solid cause shown,
      TokenStart read chars before solid → ¬ Faulty solid cause shown := by
  induction lexing with
  | exhausted skips =>
    intro tokens done before solid cause shown start faulty
    rcases start.split skips with ⟨-, rfl⟩ | ⟨c, rest, kind, spelling, behind, same, -⟩
    · exact faulty.ne_nil rfl
    · cases same
  | sentinel skips ends =>
    intro tokens done before solid cause shown start faulty
    rcases start.split skips with ⟨-, rfl⟩ | ⟨c, rest, kind, spelling, behind, same, goesOn, -⟩
    · simp [faulty.goesOn] at ends
    · obtain ⟨rfl, -⟩ := List.cons.inj same
      simp [goesOn] at ends
  | @token _ _ _ _ _ _ _ _ outcome skips goesOn lexeme sound later ih =>
    intro tokens done before solid cause shown start faulty
    rcases start.split skips with ⟨-, rfl⟩ | ⟨c, rest, kind, spelling, behind, same, -, next, start⟩
    · exact sound _ _ faulty
    · rw [← same] at next
      obtain ⟨rfl, rfl, rfl⟩ := lexeme.unique next
      cases outcome with
      | error error => cases done
      | ok others => exact ih others rfl _ _ _ _ start faulty
  | fault skips faulty =>
    intro tokens done
    cases done

/-- A lexing that fails gives the first fault of the text. -/
theorem FirstFault.of_lexing {read chars : List Char} {outcome : Except LexError (List Token)}
    (lexing : Lexing read chars outcome) :
    ∀ error, outcome = .error error → FirstFault read chars error := by
  induction lexing with
  | exhausted skips =>
    intro error failed
    cases failed
  | sentinel skips ends =>
    intro error failed
    cases failed
  | @token _ _ _ _ _ _ _ _ outcome skips goesOn lexeme sound later ih =>
    intro error failed
    cases outcome with
    | ok others => cases failed
    | error error' =>
      obtain rfl := Except.error.inj failed
      obtain ⟨before, solid, shown, start, faulty, stands, least⟩ := ih _ rfl
      refine ⟨before, solid, shown, .later skips goesOn lexeme start, faulty, stands, ?_⟩
      intro before' solid' cause' shown' start' faulty'
      rcases start'.split skips with ⟨-, rfl⟩ | ⟨c, rest, kind, spelling, behind, same, -, next, further⟩
      · -- the text was read on from here, so that it is not faulty here
        exact absurd faulty' (sound _ _)
      · rw [← same] at next
        obtain ⟨rfl, rfl, rfl⟩ := lexeme.unique next
        exact least _ _ _ _ further faulty'
  | @fault read chars blanks solid shown c cause skips faulty =>
    intro error failed
    obtain rfl := Except.error.inj failed
    refine ⟨read ++ blanks, c :: solid, shown, .here skips, faulty, rfl, ?_⟩
    intro before' solid' cause' shown' start' faulty'
    -- every other token start lies further on
    rcases start'.split skips with ⟨rfl, -⟩ | ⟨d, rest, kind, spelling, behind, -, -, -, further⟩
    · exact Nat.le_refl _
    · have behindIt := further.length_le
      rw [List.length_append] at behindIt
      omega

end Grammar

/-! ### The errors of a lexer -/

theorem Scanner.faulty_of_scan {scanner : Scanner} {error : LexError}
    (failed : scanner.scan.1 = .error error) :
    ∃ chars shown, Faulty chars error.cause shown := by
  unfold scan scanFrom at failed
  split at failed
  · cases failed
  generalize scanner.state.rest.dropWhile isBlank = chars at failed
  cases chars with
  | nil => cases failed
  | cons c rest =>
    rw [scanHere] at failed
    cases read : Lexeme.read c rest with
    | ok lexeme =>
      rw [read] at failed
      cases failed
    | error fault =>
      rw [read] at failed
      obtain rfl := Except.error.inj failed
      exact ⟨c :: rest, fault.read, faulty_of_read read⟩

namespace Lexer

/-- The error in an answer, if any. -/
def Answer.error? : Answer → Option LexError
  | .token (.error error) => some error
  | .checked (.error error) => some error
  | .tokens (.error error) => some error
  | .item (some (.error error)) => some error
  | _ => none

namespace Answer

variable {error : LexError}

theorem error?_token {outcome : Except LexError Token} :
    (token outcome).error? = some error ↔ outcome = .error error := by
  cases outcome <;> simp [error?]

theorem error?_checked {outcome : Except LexError Token} {check : Token → Token × Bool} :
    (checked (outcome.map check)).error? = some error ↔ outcome = .error error := by
  cases outcome <;> simp [error?, Except.map]

theorem error?_tokens {outcome : Except LexError (List Token)} :
    (tokens outcome).error? = some error ↔ outcome = .error error := by
  cases outcome <;> simp [error?]

theorem error?_item {outcome : Option (Except LexError Token)} :
    (item outcome).error? = some error ↔ outcome = some (.error error) := by
  rcases outcome with - | first | token <;> simp [error?]

end Answer

/-- Iteration yields an error only if consuming fails. -/
theorem consume_of_next {lexer : Lexer} {error : LexError}
    (failed : lexer.next.1 = some (.error error)) : lexer.consume.1 = .error error := by
  unfold Lexer.next at failed
  split at failed
  · cases failed
  · generalize lexer.consume = outcome at failed ⊢
    obtain ⟨result, after⟩ := outcome
    cases result with
    | error first => exact Option.some.inj failed
    | ok token =>
      dsimp only at failed
      split at failed
      · cases failed
      · cases Option.some.inj failed

namespace Coherent

variable {source : String} {lexer : Lexer} {error : LexError}

theorem scanned_of_consume (coherent : Coherent source lexer)
    (failed : lexer.consume.1 = .error error) :
    ∃ scans, Scanner.result source scans = .error error := by
  have consumed := lexer.consumed
  rw [failed] at consumed
  generalize lexer.consume.2 = after at consumed
  cases consumed with
  | failed stopped => exact ⟨_, coherent.failed error stopped⟩
  | stopped running empty scanned =>
    rw [coherent.scan_eq running] at scanned
    exact ⟨_, scanned⟩

theorem scanned_of_peekMany (coherent : Coherent source lexer) {count : Nat}
    (failed : lexer.peekMany count = .error error) :
    ∃ scans, Scanner.result source scans = .error error := by
  induction count generalizing lexer with
  | zero =>
    cases stopped : lexer.failed with
    | none =>
      rw [peekMany_zero stopped] at failed
      cases failed
    | some first =>
      rw [peekMany_failed stopped] at failed
      obtain rfl := Except.error.inj failed
      exact ⟨_, coherent.failed _ stopped⟩
  | succ count ih =>
    rw [peekMany_succ] at failed
    cases consumed : lexer.consume.1 with
    | error first =>
      rw [consumed] at failed
      obtain rfl := Except.error.inj failed
      exact coherent.scanned_of_consume consumed
    | ok token =>
      rw [consumed] at failed
      exact ih (coherent.consume lexer.consumed) (map_eq_error_iff.mp failed)

/-- **Every error of a lexer is the result of a scan.** -/
theorem scanned_of_error (coherent : Coherent source lexer) (operation : Operation)
    (failed : (lexer.perform operation).1.error? = some error) :
    ∃ scans, Scanner.result source scans = .error error := by
  cases operation with
  | consume => exact coherent.scanned_of_consume (Answer.error?_token.mp failed)
  | consumeChecked => exact coherent.scanned_of_consume (Answer.error?_checked.mp failed)
  | peek =>
    have seen : lexer.peek = .error error := Answer.error?_token.mp failed
    rw [peek_eq] at seen
    exact coherent.scanned_of_consume seen
  | peekMany count => exact coherent.scanned_of_peekMany (Answer.error?_tokens.mp failed)
  | reconsume => cases failed
  | next => exact coherent.scanned_of_consume (consume_of_next (Answer.error?_item.mp failed))

/-- No operation finds fault with the first character of an identifier. -/
theorem cause_ne (coherent : Coherent source lexer) (operations : List Operation) :
    ∀ answer ∈ (lexer.run operations).1, ∀ error, answer.error? = some error →
      ∀ found, error.cause ≠ .invalidIdentifierStart found := by
  induction operations generalizing lexer with
  | nil =>
    intro answer member
    cases member
  | cons operation operations ih =>
    intro answer member error failed found same
    rcases List.mem_cons.mp member with rfl | later
    · obtain ⟨scans, scanned⟩ := coherent.scanned_of_error operation failed
      obtain ⟨chars, shown, faulty⟩ := Scanner.faulty_of_scan scanned
      rw [same] at faulty
      cases faulty
    · exact ih ((kept source).perform coherent operation) answer later error failed found same

end Coherent

end Lexer

/-! ### The error of a text -/

theorem tokenize_error_iff (source : String) (error : LexError) :
    tokenize source = .error error ↔ FirstFault [] source.toList error := by
  have lexing := lexing_tokenize source
  constructor
  · exact fun failed => .of_lexing lexing error failed
  · intro first
    cases outcome : tokenize source with
    | ok tokens =>
      obtain ⟨before, solid, shown, start, faulty, -, -⟩ := first
      exact absurd faulty (not_faulty_of_lexing lexing tokens outcome _ _ _ _ start)
    -- some error comes, and it is that of the first fault, of which there is only one
    | error other => rw [first.unique (.of_lexing lexing other outcome)]

/-- **A text gives the error of its first faulty token start**, and an error only if a token start is
faulty.  A string without its closing quote is faulty at the last character of the text.  No
operation on a lexer ever finds fault with the first character of an identifier. -/
theorem tokenize_firstFault (source : String) :
    (∀ error, tokenize source = .error error ↔ FirstFault [] source.toList error)
    ∧ ((∃ error, tokenize source = .error error)
        ↔ ∃ before solid cause shown, TokenStart [] source.toList before solid
          ∧ Faulty solid cause shown)
    ∧ (∀ delimiter pos, tokenize source = .error ⟨.unterminatedString delimiter, pos⟩ →
        pos = Pos.after source.toList)
    ∧ ∀ operations, ∀ answer ∈ ((Lexer.ofString source).run operations).1,
        ∀ error, answer.error? = some error →
          ∀ found, error.cause ≠ .invalidIdentifierStart found := by
  refine ⟨tokenize_error_iff source, ⟨?_, ?_⟩, ?_, ?_⟩
  · rintro ⟨error, failed⟩
    obtain ⟨before, solid, shown, start, faulty, -, -⟩ := (tokenize_error_iff source error).mp failed
    exact ⟨before, solid, error.cause, shown, start, faulty⟩
  · rintro ⟨before, solid, cause, shown, start, faulty⟩
    cases outcome : tokenize source with
    | ok tokens =>
      exact absurd faulty
        (not_faulty_of_lexing (lexing_tokenize source) tokens outcome _ _ _ _ start)
    | error error => exact ⟨error, rfl⟩
  · intro delimiter pos failed
    obtain ⟨before, solid, shown, start, faulty, stands, -⟩ := (tokenize_error_iff source _).mp failed
    have stands : pos = Pos.after (before ++ shown) := stands
    rw [stands, ← List.nil_append source.toList, ← start.whole]
    cases faulty
    rfl
  · exact (Lexer.Coherent.ofString source).cause_ne

end ExprLexer
