import ExprLexer.Cursor
import ExprLexer.Lexeme

/-!
The scanner: tokens off a text, one after the other.

Blanks before a token are skipped.  The end of the text ends the input, and so does an
end-of-input character where a token could begin; nothing behind it is ever read.

* `Scanner.scan`: the next token, or the error that stops the scan;
* `Scanner.scan_shortens`: a token that does not end the input leaves less to read;
* `Scanner.tokens`: all tokens of a text;
* `Scanner.take`: the first tokens of a text;
* `Scanner.look`: the next tokens, the end of the input as often as asked for.
-/

namespace ExprLexer

/-- A place in a text from which tokens are read. -/
structure Scanner where
  state : ReadState
  /-- The character that ended the input, and its position. -/
  ended : Option (Char × Pos)
deriving DecidableEq

namespace Scanner

/-- A scanner before a text. -/
def ofString (source : String) : Scanner := ⟨⟨source.toList, Mark.start⟩, none⟩

/-- The position of the last character read. -/
def position (scanner : Scanner) : Pos := scanner.state.mark.pos

/-- The scanner that stands behind a token. -/
def behind (token : Token) (state : ReadState) : Scanner :=
  match token.kind with
  | .endOfInput c => ⟨state, some (c, token.pos)⟩
  | _ => ⟨state, none⟩

/-- The token at the front of a text that does not begin with a blank. -/
def scanHere (mark : Mark) : List Char → Except LexError Token × Scanner
  | [] => (.ok ⟨.endOfInput endOfText, mark.pos⟩, ⟨⟨[], mark⟩, some (endOfText, mark.pos)⟩)
  | c :: rest =>
    match Lexeme.read c rest with
    | .ok lexeme =>
      let mark := mark.advance lexeme.spelling
      let token : Token := ⟨lexeme.kind, mark.pos⟩
      (.ok token, behind token ⟨lexeme.rest, mark⟩)
    | .error fault =>
      let mark := mark.advance fault.read
      (.error ⟨fault.cause, mark.pos⟩, ⟨⟨fault.rest, mark⟩, none⟩)

/-- The token at the front of what is left, with the blanks before it skipped. -/
def scanFrom (state : ReadState) : Except LexError Token × Scanner :=
  scanHere (state.mark.advance (state.rest.takeWhile CharClass.isBlank))
    (state.rest.dropWhile CharClass.isBlank)

/-- The next token.  Once the input ended, it is the token that ended it. -/
def scan (scanner : Scanner) : Except LexError Token × Scanner :=
  match scanner.ended with
  | some (c, pos) => (.ok ⟨.endOfInput c, pos⟩, scanner)
  | none => scanFrom scanner.state

@[simp] theorem behind_state (token : Token) (state : ReadState) :
    (behind token state).state = state := by
  unfold behind
  split <;> rfl

theorem scanHere_shortens {mark : Mark} {chars : List Char} {token : Token}
    (scanned : (scanHere mark chars).1 = .ok token) (more : token.isEnd = false) :
    (scanHere mark chars).2.state.rest.length < chars.length := by
  cases chars with
  | nil =>
    obtain rfl := Except.ok.inj scanned
    simp [Token.isEnd, TokenKind.isEnd] at more
  | cons c rest =>
    rw [scanHere] at scanned ⊢
    cases outcome : Lexeme.read c rest with
    | ok lexeme =>
      have shorter := Lexeme.length_rest_lt outcome
      rw [behind_state]
      exact shorter
    | error fault =>
      rw [outcome] at scanned
      cases scanned

/-- A token that does not end the input leaves less to read. -/
theorem scanFrom_shortens {state : ReadState} {token : Token}
    (scanned : (scanFrom state).1 = .ok token) (more : token.isEnd = false) :
    (scanFrom state).2.state.rest.length < state.rest.length := by
  have bounded : (state.rest.dropWhile CharClass.isBlank).length ≤ state.rest.length :=
    (List.dropWhile_sublist _).length_le
  exact Nat.lt_of_lt_of_le (scanHere_shortens scanned more) bounded

/-- A token that does not end the input leaves less to read. -/
theorem scan_shortens {scanner : Scanner} {token : Token} (fresh : scanner.ended = none)
    (scanned : scanner.scan.1 = .ok token) (more : token.isEnd = false) :
    scanner.scan.2.state.rest.length < scanner.state.rest.length := by
  unfold scan at scanned ⊢
  rw [fresh] at scanned ⊢
  exact scanFrom_shortens scanned more

/-- All tokens off a place in a text, the one that ends the input last. -/
def tokensFrom (state : ReadState) : Except LexError (List Token) :=
  match _scanned : scanFrom state with
  | (.error error, _) => .error error
  | (.ok token, next) =>
    if _more : token.isEnd = false then (tokensFrom next.state).map (token :: ·) else .ok [token]
termination_by state.rest.length
decreasing_by
  have shorter := scanFrom_shortens (by rw [_scanned]) _more
  rwa [_scanned] at shorter

/-- All tokens of a text, the one that ends the input last; or the first error. -/
def tokens (source : String) : Except LexError (List Token) :=
  tokensFrom (ofString source).state

/-- The first tokens, up to the one that ends the input and to a limit. -/
def take : Nat → Scanner → Except LexError (List Token)
  | 0, _ => .ok []
  | limit + 1, scanner =>
    match scanner.scan with
    | (.error error, _) => .error error
    | (.ok token, next) => if token.isEnd then .ok [token] else (take limit next).map (token :: ·)

/-- The next tokens, as many as asked for; the end of the input is repeated. -/
def look : Nat → Scanner → Except LexError (List Token)
  | 0, _ => .ok []
  | count + 1, scanner =>
    match scanner.scan with
    | (.error error, _) => .error error
    | (.ok token, next) => (look count next).map (token :: ·)

end Scanner

/-- All tokens of a text, the one that ends the input last; or the first error. -/
def tokenize (source : String) : Except LexError (List Token) := Scanner.tokens source

end ExprLexer
