import ExprLexer.Scanner

/-!
The lexer: tokens on demand, lookahead, and tokens handed back.

Tokens handed back wait in a queue and are replayed before anything is scanned.  The first error
that stops a `consume` is final.  Iteration ends for good at the end of the input or at an error.

* `Lexer.consume`, `Lexer.peek`, `Lexer.peekMany`, `Lexer.reconsume`, `Lexer.next`: the operations;
* `Lexer.consume_failed`: an error is final;
* `Lexer.drain`, `Lexer.takeNext`: all that iteration still yields, and the first items of that;
* `Lexer.Operation`, `Lexer.perform`, `Lexer.run`: the operations as data, and runs of them.
-/

namespace ExprLexer

/-- A lexer over a text. -/
structure Lexer where
  scanner : Scanner
  /-- The tokens handed back, in the order of their replay. -/
  pending : List Token
  current : Option Token
  /-- How many tokens were scanned; replays do not count. -/
  produced : Nat
  failed : Option LexError
  done : Bool
deriving DecidableEq

namespace Lexer

/-- A lexer before a text. -/
def ofString (source : String) : Lexer := ⟨Scanner.ofString source, [], none, 0, none, false⟩

/-- The position of the last character read. -/
def position (lexer : Lexer) : Pos := lexer.scanner.position

/-- Hands out the next token: the first one pending, else a scanned one. -/
def consume (lexer : Lexer) : Except LexError Token × Lexer :=
  match lexer.failed with
  | some error => (.error error, lexer)
  | none =>
    match lexer.pending with
    | token :: pending => (.ok token, { lexer with pending, current := some token })
    | [] =>
      match lexer.scanner.scan with
      | (.ok token, scanner) =>
        (.ok token, { lexer with scanner, current := some token, produced := lexer.produced + 1 })
      | (.error error, scanner) => (.error error, { lexer with scanner, failed := some error })

/-- Hands out the next token, and says whether it is something other than the end of the input. -/
def consumeChecked (lexer : Lexer) : Except LexError (Token × Bool) × Lexer :=
  let (outcome, after) := lexer.consume
  (outcome.map fun token => (token, !token.isEnd), after)

/-- The token that `consume` would hand out. -/
def peek (lexer : Lexer) : Except LexError Token :=
  match lexer.failed with
  | some error => .error error
  | none =>
    match lexer.pending with
    | token :: _ => .ok token
    | [] => lexer.scanner.scan.1

/-- The next tokens, as many as asked for; the end of the input is repeated. -/
def peekMany (lexer : Lexer) (count : Nat) : Except LexError (List Token) :=
  match lexer.failed with
  | some error => .error error
  | none =>
    let replayed := lexer.pending.take count
    (lexer.scanner.look (count - replayed.length)).map (replayed ++ ·)

/-- Hands the current token back.  Tokens are replayed in the order they were handed back. -/
def reconsume (lexer : Lexer) : Lexer :=
  match lexer.current with
  | some token => { lexer with pending := lexer.pending ++ [token] }
  | none => lexer

/-- One step of iteration: a token before the end of the input, an error once, then nothing. -/
def next (lexer : Lexer) : Option (Except LexError Token) × Lexer :=
  if lexer.done then (none, lexer)
  else
    match lexer.consume with
    | (.ok token, after) =>
      if token.isEnd then (none, { after with done := true }) else (some (.ok token), after)
    | (.error error, after) => (some (.error error), { after with done := true })

/-- An error is final. -/
theorem consume_failed {lexer : Lexer} {error : LexError} (failed : lexer.failed = some error) :
    lexer.consume = (.error error, lexer) := by
  rw [consume, failed]

/-! ### Iterating to the end -/

/-- A bound on the steps that iteration still takes. -/
def stepsLeft (lexer : Lexer) : Nat :=
  if lexer.done then 0
  else 1 + lexer.pending.length +
    match lexer.scanner.ended with
    | some _ => 0
    | none => lexer.scanner.state.rest.length

/-- A token that iteration yields brings its end closer. -/
theorem stepsLeft_consume {lexer : Lexer} {token : Token} (running : lexer.done = false)
    (consumed : lexer.consume.1 = .ok token) (more : token.isEnd = false) :
    lexer.consume.2.stepsLeft < lexer.stepsLeft := by
  unfold consume at consumed ⊢
  cases failed : lexer.failed with
  | some error => simp [failed] at consumed
  | none =>
    rw [failed] at consumed
    cases pending : lexer.pending with
    | cons head tail =>
      simp [stepsLeft, running, pending]
    | nil =>
      rw [pending] at consumed
      simp only at consumed ⊢
      cases ended : lexer.scanner.ended with
      | some final =>
        have isFinal : lexer.scanner.scan = (.ok ⟨.endOfInput final.1, final.2⟩, lexer.scanner) := by
          rw [Scanner.scan, ended]
        rw [isFinal] at consumed
        obtain rfl := Except.ok.inj consumed
        simp [Token.isEnd, TokenKind.isEnd] at more
      | none =>
        have shorter : ∀ token, lexer.scanner.scan.1 = .ok token → token.isEnd = false → _ :=
          fun _ => Scanner.scan_shortens ended
        generalize lexer.scanner.scan = scanned at consumed shorter ⊢
        obtain ⟨result, scanner⟩ := scanned
        cases result with
        | error error => cases consumed
        | ok scannedToken =>
          obtain rfl := Except.ok.inj consumed
          have bound : scanner.state.rest.length < _ := shorter _ rfl more
          simp only [stepsLeft, running, pending, ended, Bool.false_eq_true, if_false,
            List.length_nil]
          split <;> omega

/-- A step of iteration that yields something brings its end closer. -/
theorem stepsLeft_next {lexer : Lexer} {item : Except LexError Token}
    (yielded : lexer.next.1 = some item) : lexer.next.2.stepsLeft < lexer.stepsLeft := by
  unfold next at yielded ⊢
  cases running : lexer.done with
  | true => simp [running] at yielded
  | false =>
    have closer : ∀ token, lexer.consume.1 = .ok token → token.isEnd = false → _ :=
      fun _ => stepsLeft_consume running
    rw [running] at yielded
    simp only [Bool.false_eq_true, if_false] at yielded ⊢
    generalize lexer.consume = outcome at yielded closer ⊢
    obtain ⟨result, after⟩ := outcome
    cases result with
    | error error =>
      simp only [stepsLeft, running, Bool.false_eq_true, if_false, if_true]
      omega
    | ok token =>
      simp only at yielded ⊢
      cases more : token.isEnd with
      | true => simp [more] at yielded
      | false =>
        simp only [Bool.false_eq_true, if_false]
        exact closer token rfl more

/-- All that iteration still yields. -/
def drain (lexer : Lexer) : List (Except LexError Token) × Lexer :=
  match _stepped : lexer.next with
  | (none, after) => ([], after)
  | (some item, after) =>
    let (items, final) := drain after
    (item :: items, final)
termination_by lexer.stepsLeft
decreasing_by
  have closer : lexer.next.2.stepsLeft < lexer.stepsLeft := stepsLeft_next (by rw [_stepped])
  rwa [_stepped] at closer

/-- The first items that iteration yields, up to a number. -/
def takeNext : Nat → Lexer → List (Except LexError Token) × Lexer
  | 0, lexer => ([], lexer)
  | count + 1, lexer =>
    match lexer.next with
    | (none, after) => ([], after)
    | (some item, after) =>
      let (items, final) := takeNext count after
      (item :: items, final)

/-! ### Runs -/

/-- The operations on a lexer. -/
inductive Operation
  | consume
  | consumeChecked
  | peek
  | peekMany (count : Nat)
  | reconsume
  | next
deriving DecidableEq

/-- What an operation answers. -/
inductive Answer
  | token (outcome : Except LexError Token)
  | checked (outcome : Except LexError (Token × Bool))
  | tokens (outcome : Except LexError (List Token))
  | item (outcome : Option (Except LexError Token))
  | nothing

/-- Carries out an operation. -/
def perform (lexer : Lexer) : Operation → Answer × Lexer
  | .consume => (.token lexer.consume.1, lexer.consume.2)
  | .consumeChecked => (.checked lexer.consumeChecked.1, lexer.consumeChecked.2)
  | .peek => (.token lexer.peek, lexer)
  | .peekMany count => (.tokens (lexer.peekMany count), lexer)
  | .reconsume => (.nothing, lexer.reconsume)
  | .next => (.item lexer.next.1, lexer.next.2)

/-- Carries out operations in order. -/
def run (lexer : Lexer) : List Operation → List Answer × Lexer
  | [] => ([], lexer)
  | operation :: operations =>
    let (answer, after) := lexer.perform operation
    let (answers, final) := run after operations
    (answer :: answers, final)

end Lexer

end ExprLexer
