import ExprLexer.Proofs.Lexing

/-!
Cutting a text into tokens is leftmost-longest.

* `Grammar.LeftmostLongest`: the cut of a text that skips blanks and takes the longest lexeme, over
  and over, until the text or a character that ends the input stops it;
* `LeftmostLongest.of_lexing`, `LeftmostLongest.unique`: a text whose lexing succeeds has this cut,
  and no other;
* `tokenize_leftmostLongest`: **the tokens of a text are its only leftmost-longest cut**.
-/

namespace ExprLexer

open CharClass Grammar

namespace Grammar

/-- The tokens of `chars`, with the characters `read` before it: blanks are skipped, then the
longest lexeme is taken, until the text ends or a character that ends the input comes.  A token has
the position of the last character of its spelling. -/
inductive LeftmostLongest : List Char → List Char → List Token → Prop
  | exhausted {read chars blanks : List Char} (skips : Skips chars blanks []) :
      LeftmostLongest read chars [⟨.endOfInput '\x00', Pos.after (read ++ blanks)⟩]
  | sentinel {read chars blanks rest : List Char} {c : Char} (skips : Skips chars blanks (c :: rest))
      (ends : isEndOfInput c = true) :
      LeftmostLongest read chars [⟨.endOfInput c, Pos.after (read ++ blanks ++ [c])⟩]
  | token {read chars blanks solid spelling rest : List Char} {c : Char} {kind : TokenKind}
      {tokens : List Token} (skips : Skips chars blanks (c :: solid))
      (goesOn : isEndOfInput c = false) (lexeme : NextLexeme (c :: solid) kind spelling rest)
      (later : LeftmostLongest (read ++ blanks ++ spelling) rest tokens) :
      LeftmostLongest read chars (⟨kind, Pos.after (read ++ blanks ++ spelling)⟩ :: tokens)

namespace LeftmostLongest

/-- A text whose lexing succeeds is cut so. -/
theorem of_lexing {read chars : List Char} {outcome : Except LexError (List Token)}
    (lexing : Lexing read chars outcome) :
    ∀ tokens, outcome = .ok tokens → LeftmostLongest read chars tokens := by
  induction lexing with
  | exhausted skips =>
    intro tokens done
    obtain rfl := Except.ok.inj done
    exact .exhausted skips
  | sentinel skips ends =>
    intro tokens done
    obtain rfl := Except.ok.inj done
    exact .sentinel skips ends
  | @token _ _ _ _ _ _ _ _ outcome skips goesOn lexeme sound later ih =>
    intro tokens done
    cases outcome with
    | error error => cases done
    | ok others =>
      obtain rfl := Except.ok.inj done
      exact .token skips goesOn lexeme (ih others rfl)
  | fault skips faulty =>
    intro tokens done
    cases done

/-- A text has at most one such cut. -/
theorem unique {read chars : List Char} {tokens others : List Token}
    (one : LeftmostLongest read chars tokens) (other : LeftmostLongest read chars others) :
    tokens = others := by
  induction one generalizing others with
  | exhausted skips =>
    cases other with
    | exhausted skips' =>
      obtain ⟨rfl, -⟩ := skips.unique skips'
      rfl
    | sentinel skips' ends => cases (skips.unique skips').2
    | token skips' goesOn lexeme later => cases (skips.unique skips').2
  | sentinel skips ends =>
    cases other with
    | exhausted skips' => cases (skips.unique skips').2
    | sentinel skips' ends' =>
      obtain ⟨rfl, same⟩ := skips.unique skips'
      obtain ⟨rfl, -⟩ := List.cons.inj same
      rfl
    | token skips' goesOn lexeme later =>
      obtain ⟨rfl, -⟩ := List.cons.inj (skips.unique skips').2
      simp [ends] at goesOn
  | token skips goesOn lexeme later ih =>
    cases other with
    | exhausted skips' => cases (skips.unique skips').2
    | sentinel skips' ends =>
      obtain ⟨rfl, -⟩ := List.cons.inj (skips.unique skips').2
      simp [ends] at goesOn
    | token skips' goesOn' lexeme' later' =>
      obtain ⟨rfl, same⟩ := skips.unique skips'
      rw [← same] at lexeme'
      obtain ⟨rfl, rfl, rfl⟩ := lexeme.unique lexeme'
      rw [ih later']

end LeftmostLongest

end Grammar

/-- **The tokens of a text are its only leftmost-longest cut.** -/
theorem tokenize_leftmostLongest {source : String} {tokens : List Token}
    (done : tokenize source = .ok tokens) (cut : List Token) :
    LeftmostLongest [] source.toList cut ↔ cut = tokens := by
  have taken : LeftmostLongest [] source.toList tokens :=
    .of_lexing (lexing_tokenize source) tokens done
  constructor
  · exact fun other => other.unique taken
  · rintro rfl
    exact taken

/-- A text in which a pair of operators, a number with half an exponent, a string across NUL, a
delimiter and a character that ends the input stand close together. -/
theorem tokenize_leftmostLongest_mixed :
    tokenize "x1>=.5e+\n'a\x00'&\x03 b"
      = .ok [⟨.identifier "x1", ⟨2, 1, 2⟩⟩, ⟨.operator .atLeast, ⟨4, 1, 4⟩⟩,
          ⟨.numberLiteral ".5e+", ⟨8, 1, 8⟩⟩, ⟨.stringLiteral "a\x00", ⟨13, 2, 4⟩⟩,
          ⟨.delimiter '&', ⟨14, 2, 5⟩⟩, ⟨.endOfInput '\x03', ⟨15, 2, 6⟩⟩]
      ∧ ∀ cut, LeftmostLongest [] "x1>=.5e+\n'a\x00'&\x03 b".toList cut
          ↔ cut = [⟨.identifier "x1", ⟨2, 1, 2⟩⟩, ⟨.operator .atLeast, ⟨4, 1, 4⟩⟩,
              ⟨.numberLiteral ".5e+", ⟨8, 1, 8⟩⟩, ⟨.stringLiteral "a\x00", ⟨13, 2, 4⟩⟩,
              ⟨.delimiter '&', ⟨14, 2, 5⟩⟩, ⟨.endOfInput '\x03', ⟨15, 2, 6⟩⟩] := by
  have done : tokenize "x1>=.5e+\n'a\x00'&\x03 b"
      = .ok [⟨.identifier "x1", ⟨2, 1, 2⟩⟩, ⟨.operator .atLeast, ⟨4, 1, 4⟩⟩,
          ⟨.numberLiteral ".5e+", ⟨8, 1, 8⟩⟩, ⟨.stringLiteral "a\x00", ⟨13, 2, 4⟩⟩,
          ⟨.delimiter '&', ⟨14, 2, 5⟩⟩, ⟨.endOfInput '\x03', ⟨15, 2, 6⟩⟩] := by
    rw [tokenize_eq_take]
    decide +kernel
  exact ⟨done, tokenize_leftmostLongest done⟩

end ExprLexer
