import ExprLexer.Failure
import ExprLexer.Lexer
import ExprLexer.Rendering

/-!
Looking at the tokens of a text.

* `Input.read`: the text to look at;
* `collectTokens`: the first tokens of a text;
* `tokensOutput`: the first tokens of a text, printed;
* `aheadOutput`: the next tokens of a text, printed, the end of the input as often as asked for.
-/

namespace ExprLexer

/-- Where a text comes from. -/
inductive Input
  | expression (text : String)
  /-- A file; `-` is the standard input. -/
  | file (name : String)
deriving DecidableEq

/-- The text to look at. -/
def Input.read {m : Type → Type} [Monad m] [FileAccess m] : Input → m (Except Failure String)
  | .expression text => return .ok text
  | .file name => do
    if name = "-" then return (decode (← FileAccess.readInput)).mapError .input
    else return (← readText (Path.ofString name)).mapError (.file name)

/-- The first tokens of a text, up to a limit. -/
def collectTokens (text : String) (limit : Nat) : Except Failure (List Token) :=
  ((Scanner.ofString text).take limit).mapError (.lexical · text)

/-- The first tokens of a text, printed. -/
def tokensOutput (rendering : Rendering) (limit : Nat) (text : String) : Except Failure String :=
  (collectTokens text limit).map rendering.render

/-- The next tokens of a text, printed, at most as many as the limit. -/
def aheadOutput (rendering : Rendering) (limit count : Nat) (text : String) :
    Except Failure String :=
  (((Lexer.ofString text).peekMany (min count limit)).mapError (.lexical · text)).map
    rendering.render

end ExprLexer
