import ExprLexer.Proofs.Lexing
import ExprLexer.Proofs.Runs

/-!
Scanning off a cursor, one character at a time.

* `Cursor.takeRun`: a loop that consumes characters of a class, and one more that ends the loop;
* `Cursor.Takes`: what such a loop takes is the front that a function on lists cuts off, and
  `Cursor.takes_takeRun`: **for a class of characters that is `takeWhile`, and giving the last character
  back leaves `dropWhile`**;
* `Cursor.takeQuoted_eq`: **a loop up to a quote takes everything in front of it**;
* `Cursor.scanNumber`, `Cursor.scanString`, `Cursor.scanIdentifier`, `Cursor.scanOperator`: the tokens,
  and `Cursor.seen_scanToken`: **each is scanned as its lexeme is read**;
* `CursorScanner.scan`: the next token, read off a cursor;
* `CursorScanner.scan_scanner`: **it is the token that the scanner gives, and both stand at one place**;
* `CursorScanner.after_scanner`: so they do however often they scan.

The scanner cuts fronts off a list of characters, which drops no character and needs no giving back.  A
cursor gives back one character at most, so each loop here is followed to the character in hand: the one
that was consumed last (`ReadState.hold`).
-/

namespace ExprLexer

open CharClass Grammar

/-! ### Characters in hand -/

namespace ReadState

/-- Where reading stands behind some characters, with the rest still to come. -/
def past (state : ReadState) (front rest : List Char) : ReadState := ⟨rest, state.mark.advance front⟩

/-- The character that is consumed where reading stands, and the cursor behind it. -/
def hold (state : ReadState) : Char × Cursor := Cursor.consume ⟨state, none⟩

variable {state : ReadState} {c : Char} {rest : List Char}

theorem past_nil (spelled : state.rest = rest) : state.past [] rest = state := by
  subst spelled
  rfl

theorem past_past (state : ReadState) (front rest front' rest' : List Char) :
    (state.past front rest).past front' rest' = state.past (front ++ front') rest' := by
  rw [past, past, past, Mark.advance_append]

theorem hold_nil (exhausted : state.rest = []) : state.hold = (endOfText, ⟨state, some state⟩) := by
  rw [hold, Cursor.consume, exhausted]

theorem hold_cons (spelled : state.rest = c :: rest) :
    state.hold = (c, ⟨state.past [c] rest, some state⟩) := by
  rw [hold, Cursor.consume, spelled]
  rfl

/-- The character in hand can be given back. -/
theorem reconsume_hold (state : ReadState) : state.hold.2.reconsume = (true, ⟨state, none⟩) :=
  Cursor.reconsume_consume ⟨state, none⟩

end ReadState

namespace Cursor

/-- What is consumed depends only on where the cursor reads. -/
theorem consume_eq_hold (cursor : Cursor) : cursor.consume = cursor.current.hold := rfl

/-- Unless the text is over, consuming leaves less to read. -/
theorem length_rest_consume {cursor : Cursor} (more : cursor.current.rest ≠ []) :
    cursor.consume.2.current.rest.length < cursor.current.rest.length := by
  cases spelled : cursor.current.rest with
  | nil => exact absurd spelled more
  | cons c rest =>
    rw [consume_eq_hold, ReadState.hold_cons spelled]
    exact Nat.lt_succ_self rest.length

/-! ### Loops -/

/-- A class of characters that a loop can run over: the one at the end of a text is not in it. -/
structure RunClass where
  holds : Char → Bool
  stops : holds endOfText = false

/-- The digits of a number. -/
def digits : RunClass := ⟨isDigit, by decide⟩

/-- The characters between tokens. -/
def blanks : RunClass := ⟨isBlank, by decide⟩

/-- The characters that continue an identifier. -/
def identifierTail : RunClass := ⟨isIdentContinue, by decide⟩

variable {run : RunClass} {cursor : Cursor}

theorem rest_ne_nil_of_holds (goesOn : run.holds cursor.consume.1 = true) :
    cursor.current.rest ≠ [] := by
  intro exhausted
  rw [consume_eq_hold, ReadState.hold_nil exhausted, run.stops] at goesOn
  cases goesOn

/-- Consumes characters as long as they belong to a class; gives them, and what was consumed behind
them. -/
def takeRun (run : RunClass) (cursor : Cursor) : List Char × Char × Cursor :=
  if _goesOn : run.holds cursor.consume.1 = true then
    let (front, held) := takeRun run cursor.consume.2
    (cursor.consume.1 :: front, held)
  else ([], cursor.consume)
termination_by cursor.current.rest.length
decreasing_by exact length_rest_consume (rest_ne_nil_of_holds _goesOn)

/-- A reader takes the front that `split` cuts off what is left, and holds the character behind it. -/
def Takes (read : Cursor → List Char × Char × Cursor)
    (split : List Char → List Char × List Char) : Prop :=
  ∀ cursor, read cursor = ((split cursor.current.rest).1,
    (cursor.current.past (split cursor.current.rest).1 (split cursor.current.rest).2).hold)

/-- **A loop over a class of characters takes them all.** -/
theorem takes_takeRun (run : RunClass) :
    Takes (takeRun run) fun chars => (chars.takeWhile run.holds, chars.dropWhile run.holds) := by
  intro cursor
  dsimp only
  generalize spelled : cursor.current.rest = chars
  induction chars generalizing cursor with
  | nil =>
    -- the character at the end of the text ends the loop, as it is in no class
    rw [takeRun, consume_eq_hold, ReadState.hold_nil spelled, run.stops, dif_neg Bool.false_ne_true]
    rw [List.takeWhile_nil, List.dropWhile_nil, ReadState.past_nil spelled,
      ReadState.hold_nil spelled]
  | cons c rest ih =>
    rw [takeRun, consume_eq_hold, ReadState.hold_cons spelled]
    by_cases goesOn : run.holds c = true
    · rw [dif_pos goesOn, ih ⟨cursor.current.past [c] rest, some cursor.current⟩ rfl,
        List.takeWhile_cons_of_pos goesOn, List.dropWhile_cons_of_pos goesOn]
      dsimp only
      rw [ReadState.past_past]
      rfl
    · rw [dif_neg goesOn, List.takeWhile_cons_of_neg goesOn, List.dropWhile_cons_of_neg goesOn,
        ReadState.past_nil spelled, ReadState.hold_cons spelled]

/-- **A loop and then giving back leaves the cursor behind the characters of the class.** -/
theorem reconsume_takeRun (run : RunClass) (cursor : Cursor) :
    (takeRun run cursor).2.2.reconsume
      = (true, ⟨cursor.current.past (cursor.current.rest.takeWhile run.holds)
          (cursor.current.rest.dropWhile run.holds), none⟩) := by
  rw [takes_takeRun]
  exact ReadState.reconsume_hold _

/-- Takes the character in hand if it is as asked for, and goes on behind it.  So does a loop that begins
with a character in hand. -/
def takeIf (test : Char → Bool) (more : Cursor → List Char × Char × Cursor) (held : Char × Cursor) :
    List Char × Char × Cursor :=
  if test held.1 then
    let (front, last) := more held.2
    (held.1 :: front, last)
  else ([], held)

/-- Cuts off a character if it is as asked for, and more behind it. -/
def splitIf (test : Char → Bool) (split : List Char → List Char × List Char) :
    List Char → List Char × List Char
  | [] => ([], [])
  | c :: rest => if test c then (c :: (split rest).1, (split rest).2) else ([], c :: rest)

theorem takeIf_hold {test : Char → Bool} {more : Cursor → List Char × Char × Cursor}
    {split : List Char → List Char × List Char} (takes : Takes more split)
    (stops : test endOfText = false) (state : ReadState) :
    takeIf test more state.hold
      = ((splitIf test split state.rest).1,
        (state.past (splitIf test split state.rest).1 (splitIf test split state.rest).2).hold) := by
  cases spelled : state.rest with
  | nil =>
    rw [takeIf, ReadState.hold_nil spelled, stops, if_neg Bool.false_ne_true, splitIf,
      ReadState.past_nil spelled, ReadState.hold_nil spelled]
  | cons c rest =>
    rw [takeIf, ReadState.hold_cons spelled, splitIf]
    dsimp only
    by_cases asked : test c = true
    · rw [if_pos asked, if_pos asked, takes]
      dsimp only
      rw [ReadState.past_past]
      rfl
    · rw [if_neg asked, if_neg asked, ReadState.past_nil spelled, ReadState.hold_cons spelled]

/-! ### What a scan comes to -/

/-- What comes of a lexeme that is read, or of a fault, and where reading stands behind it. -/
def came (state : ReadState) : Except Fault Lexeme → Except LexError Token × ReadState
  | .ok lexeme =>
    let state := state.past lexeme.spelling lexeme.rest
    (.ok ⟨lexeme.kind, state.mark.pos⟩, state)
  | .error fault =>
    let state := state.past fault.read fault.rest
    (.error ⟨fault.cause, state.mark.pos⟩, state)

/-- What a scan gives, and where the cursor then reads.  What it can give back does not count. -/
def seen (scanned : Except LexError Token × Cursor) : Except LexError Token × ReadState :=
  (scanned.1, scanned.2.current)

/-- A token that ends where the cursor stands. -/
def finish (cursor : Cursor) (kind : TokenKind) : Except LexError Token × Cursor :=
  (.ok ⟨kind, cursor.position⟩, cursor)

/-- A fault that shows where the cursor stands. -/
def refuse (cursor : Cursor) (cause : LexError.Cause) : Except LexError Token × Cursor :=
  (.error ⟨cause, cursor.position⟩, cursor)

/-! ### Numbers -/

/-- A sign and digits, both of which may be missing. -/
def takeSigned (cursor : Cursor) : List Char × Char × Cursor :=
  let (sign, held) := takeIf isSign (fun cursor => ([], cursor.consume)) cursor.consume
  let (front, held) := takeIf isDigit (takeRun digits) held
  (sign ++ front, held)

/-- A number.  The character that ends it is given back. -/
def scanNumber (cursor : Cursor) : Except LexError Token × Cursor :=
  let (whole, held) := takeRun digits cursor
  let (fraction, held) := takeIf (· == '.') (takeRun digits) held
  let (exponent, held) := takeIf isExponentMarker takeSigned held
  if held.1 = '.' then held.2.refuse .unexpectedDecimalSeparator
  else if isExponentMarker held.1 then held.2.refuse .unexpectedExponentMarker
  else held.2.reconsume.2.finish (.numberLiteral (String.ofList (whole ++ fraction ++ exponent)))

theorem takes_digits : Takes (takeRun digits) splitDigits := takes_takeRun digits

theorem splitIf_point (chars : List Char) :
    splitIf (· == '.') splitDigits chars = splitPoint chars := by
  cases chars with
  | nil => rfl
  | cons c rest => simp only [splitIf, splitPoint, beq_iff_eq]

theorem splitIf_digits (chars : List Char) : splitIf isDigit splitDigits chars = splitDigits chars := by
  cases chars with
  | nil => rfl
  | cons c rest =>
    rw [splitIf, splitDigits, splitDigits, List.takeWhile_cons, List.dropWhile_cons]
    cases isDigit c <;> rfl

theorem splitIf_exponent (chars : List Char) :
    splitIf isExponentMarker splitSigned chars = splitExponent chars := by
  cases chars <;> rfl

theorem splitSigned_eq (chars : List Char) :
    splitSigned chars
      = ((splitIf isSign (([], ·)) chars).1 ++ (splitDigits (splitIf isSign (([], ·)) chars).2).1,
        (splitDigits (splitIf isSign (([], ·)) chars).2).2) := by
  cases chars with
  | nil => rfl
  | cons c rest =>
    rw [splitSigned, splitIf]
    split <;> rfl

theorem takes_takeSigned : Takes takeSigned splitSigned := by
  have takesNothing : Takes (fun cursor => ([], cursor.consume)) (([], ·)) := fun _ => rfl
  intro cursor
  rw [takeSigned, consume_eq_hold, takeIf_hold takesNothing (by decide)]
  dsimp only
  rw [takeIf_hold takes_digits (by decide), splitIf_digits, ReadState.past_past, splitSigned_eq]
  rfl

/-- What the loops over a number take. -/
theorem scanNumber_eq (cursor : Cursor) :
    cursor.scanNumber
      = let held := (cursor.current.past (numberSpelling cursor.current.rest).1
          (numberSpelling cursor.current.rest).2).hold
        if held.1 = '.' then held.2.refuse .unexpectedDecimalSeparator
        else if isExponentMarker held.1 then held.2.refuse .unexpectedExponentMarker
        else held.2.reconsume.2.finish
          (.numberLiteral (String.ofList (numberSpelling cursor.current.rest).1)) := by
  rw [scanNumber, takes_digits]
  dsimp only
  rw [takeIf_hold takes_digits (by decide)]
  dsimp only
  rw [takeIf_hold takes_takeSigned (by decide), ReadState.past_past, ReadState.past_past]
  simp only [splitIf_point, splitIf_exponent, ReadState.past, numberSpelling, List.append_assoc]

/-- A number is scanned as it is read. -/
theorem seen_scanNumber (cursor : Cursor) :
    seen cursor.scanNumber = came cursor.current (Lexeme.readNumber cursor.current.rest) := by
  rw [scanNumber_eq, Lexeme.readNumber]
  generalize numberSpelling cursor.current.rest = parts
  obtain ⟨spelling, rest⟩ := parts
  cases rest with
  | nil =>
    have exhausted : (cursor.current.past spelling []).rest = [] := rfl
    dsimp only
    rw [ReadState.reconsume_hold, ReadState.hold_nil exhausted]
    rfl
  | cons c after =>
    have spelled : (cursor.current.past spelling (c :: after)).rest = c :: after := rfl
    dsimp only
    rw [ReadState.reconsume_hold, ReadState.hold_cons spelled, ReadState.past_past]
    by_cases point : c = '.'
    · rw [if_pos point, if_pos point]
      rfl
    · rw [if_neg point, if_neg point]
      by_cases marker : isExponentMarker c = true
      · rw [if_pos marker, if_pos marker]
        rfl
      · rw [if_neg marker, if_neg marker]
        rfl

/-! ### Strings -/

/-- Consumes characters up to a quote, and the quote; nothing comes of it if the text ends first. -/
def takeQuoted (quote : Char) (cursor : Cursor) : Option (List Char) × Cursor :=
  if _exhausted : cursor.atEnd = true then (none, cursor)
  else if cursor.consume.1 = quote then (some [], cursor.consume.2)
  else
    let (content, after) := takeQuoted quote cursor.consume.2
    (content.map (cursor.consume.1 :: ·), after)
termination_by cursor.current.rest.length
decreasing_by exact length_rest_consume fun none => _exhausted (List.isEmpty_iff.mpr none)

/-- A string whose opening quote was consumed. -/
def scanString (quote : Char) (cursor : Cursor) : Except LexError Token × Cursor :=
  match cursor.takeQuoted quote with
  | (some content, after) => after.finish (.stringLiteral (String.ofList content))
  | (none, after) => after.refuse (.unterminatedString quote)

/-- **A loop up to a quote takes everything in front of it.** -/
theorem takeQuoted_eq (quote : Char) (cursor : Cursor) :
    (takeQuoted quote cursor).1
        = (match cursor.current.rest.dropWhile (· != quote) with
          | [] => none
          | _ :: _ => some (cursor.current.rest.takeWhile (· != quote)))
      ∧ (takeQuoted quote cursor).2.current
        = match cursor.current.rest.dropWhile (· != quote) with
          | [] => cursor.current.past cursor.current.rest []
          | closing :: rest =>
            cursor.current.past (cursor.current.rest.takeWhile (· != quote) ++ [closing]) rest := by
  generalize spelled : cursor.current.rest = chars
  induction chars generalizing cursor with
  | nil =>
    have exhausted : cursor.atEnd = true := List.isEmpty_iff.mpr spelled
    rw [takeQuoted, dif_pos exhausted]
    exact ⟨rfl, (ReadState.past_nil spelled).symm⟩
  | cons c rest ih =>
    have more : ¬ cursor.atEnd = true := by
      rw [atEnd, spelled]
      exact Bool.false_ne_true
    rw [takeQuoted, dif_neg more, consume_eq_hold, ReadState.hold_cons spelled]
    dsimp only
    by_cases closes : c = quote
    · rw [if_pos closes, List.dropWhile_cons_of_neg (by simpa using closes),
        List.takeWhile_cons_of_neg (by simpa using closes)]
      exact ⟨rfl, rfl⟩
    · obtain ⟨content, stands⟩ := ih ⟨cursor.current.past [c] rest, some cursor.current⟩ rfl
      rw [if_neg closes, List.dropWhile_cons_of_pos (by simpa using closes),
        List.takeWhile_cons_of_pos (by simpa using closes)]
      dsimp only
      rw [content, stands]
      cases rest.dropWhile (· != quote) <;> exact ⟨rfl, rfl⟩

/-- A string is scanned as it is read. -/
theorem seen_scanString {quote : Char} {chars : List Char} (state : ReadState)
    (saved : Option ReadState) :
    seen (scanString quote ⟨state.past [quote] chars, saved⟩)
      = came state (Lexeme.readString quote chars) := by
  obtain ⟨content, stands⟩ := takeQuoted_eq quote ⟨state.past [quote] chars, saved⟩
  rw [scanString, Lexeme.readString]
  generalize takeQuoted quote ⟨state.past [quote] chars, saved⟩ = taken at content stands
  obtain ⟨content', current, saved'⟩ := taken
  have rest : (state.past [quote] chars).rest = chars := rfl
  dsimp only at content stands ⊢
  rw [rest] at content stands
  subst content stands
  cases chars.dropWhile (· != quote) with
  | nil =>
    dsimp only
    rw [ReadState.past_past]
    rfl
  | cons closing rest =>
    dsimp only
    rw [ReadState.past_past]
    rfl

/-! ### Identifiers and operators -/

/-- An identifier. -/
def scanIdentifier (cursor : Cursor) : Except LexError Token × Cursor :=
  let held := cursor.consume
  if isIdentStart held.1 then
    let (text, held) := takeIf isIdentContinue (takeRun identifierTail) held
    held.2.reconsume.2.finish (.identifier (String.ofList text))
  else held.2.refuse (.invalidIdentifierStart held.1)

/-- An operator whose first character was consumed, or a delimiter if none is spelled. -/
def scanOperator (first : Char) (cursor : Cursor) : Except LexError Token × Cursor :=
  match Operator.lookup first (some cursor.peek) with
  | some op => cursor.consume.2.finish (.operator op)
  | none =>
    match Operator.lookup first none with
    | some op => cursor.finish (.operator op)
    | none => cursor.finish (.delimiter first)

theorem seen_scanIdentifier {cursor : Cursor} {first : Char} {chars : List Char}
    (spelled : cursor.current.rest = first :: chars) :
    seen cursor.scanIdentifier = came cursor.current (Lexeme.readIdentifier first chars) := by
  rw [scanIdentifier, Lexeme.readIdentifier, consume_eq_hold]
  have here : cursor.current.hold.1 = first := by rw [ReadState.hold_cons spelled]
  rw [here]
  by_cases starts : isIdentStart first = true
  · rw [if_pos starts, if_pos starts, takeIf_hold (takes_takeRun identifierTail) (by decide)]
    dsimp only
    rw [ReadState.reconsume_hold, spelled, splitIf,
      if_pos (isIdentContinue_of_isIdentStart starts)]
    rfl
  · rw [if_neg starts, if_neg starts, ReadState.hold_cons spelled]
    rfl

/-- No operator is spelled with the character at the end of a text. -/
theorem lookup_endOfText (first : Char) : Operator.lookup first (some endOfText) = none := by
  rw [Option.eq_none_iff_forall_ne_some]
  intro op found
  have spelled := Operator.lookup_eq_some_iff.mp found
  cases op <;> simp [Operator.symbol, endOfText] at spelled

theorem seen_scanOperator {first : Char} {chars : List Char} (state : ReadState)
    (saved : Option ReadState) :
    seen (scanOperator first ⟨state.past [first] chars, saved⟩)
      = came state (.ok (Lexeme.readOperator first chars)) := by
  have single (chars : List Char) :
      seen (match Operator.lookup first none with
        | some op => finish ⟨state.past [first] chars, saved⟩ (.operator op)
        | none => finish ⟨state.past [first] chars, saved⟩ (.delimiter first))
        = came state (.ok (Lexeme.readSingle first chars)) := by
    rw [Lexeme.readSingle]
    cases Operator.lookup first none <;> rfl
  rw [scanOperator]
  cases chars with
  | nil =>
    have exhausted : peek ⟨state.past [first] [], saved⟩ = endOfText := rfl
    rw [exhausted, lookup_endOfText]
    exact single []
  | cons second rest =>
    have ahead : peek ⟨state.past [first] (second :: rest), saved⟩ = second := rfl
    rw [ahead, Lexeme.readOperator]
    cases Operator.lookup first (some second) with
    | none => exact single (second :: rest)
    | some op => rfl

/-! ### Tokens -/

/-- The token that begins with a character just consumed, which does not end the input. -/
def scanToken (c : Char) (cursor : Cursor) : Except LexError Token × Cursor :=
  if isDigit c || (c == '.' && isDigit cursor.peek) then cursor.reconsume.2.scanNumber
  else if isQuote c then cursor.scanString c
  else if isIdentStart c then cursor.reconsume.2.scanIdentifier
  else if isOperatorStart c then cursor.scanOperator c
  else cursor.finish (.delimiter c)

/-- **A token is scanned as its lexeme is read.** -/
theorem seen_scanToken {state : ReadState} {c : Char} {rest : List Char}
    (spelled : state.rest = c :: rest) (more : isEndOfInput c = false) :
    seen (scanToken c ⟨state.past [c] rest, some state⟩) = came state (Lexeme.read c rest) := by
  have starts : (isDigit c || (c == '.' && isDigit (peek ⟨state.past [c] rest, some state⟩)))
      = Lexeme.startsNumber c rest := by
    cases rest <;> rfl
  have back : reconsume ⟨state.past [c] rest, some state⟩ = (true, ⟨state, none⟩) := rfl
  rw [scanToken, Lexeme.read, starts, back, more, if_neg Bool.false_ne_true]
  by_cases number : Lexeme.startsNumber c rest = true
  · rw [if_pos number, if_pos number, seen_scanNumber, spelled]
  · rw [if_neg number, if_neg number]
    by_cases quote : isQuote c = true
    · rw [if_pos quote, if_pos quote, seen_scanString]
    · rw [if_neg quote, if_neg quote]
      by_cases letter : isIdentStart c = true
      · rw [if_pos letter, if_pos letter, seen_scanIdentifier spelled]
      · rw [if_neg letter, if_neg letter]
        by_cases operator : isOperatorStart c = true
        · rw [if_pos operator, if_pos operator, seen_scanOperator]
        · rw [if_neg operator, if_neg operator]
          rfl

end Cursor

/-! ### Scans -/

/-- A cursor from which tokens are read. -/
structure CursorScanner where
  cursor : Cursor
  /-- The character that ended the input, and its position. -/
  ended : Option (Char × Pos)

namespace CursorScanner

/-- A scanner before a text. -/
def ofString (source : String) : CursorScanner := ⟨Cursor.ofString source, none⟩

/-- The token that begins with a character just consumed. -/
def scanHeld (c : Char) (cursor : Cursor) : Except LexError Token × CursorScanner :=
  if isEndOfInput c then
    (.ok ⟨.endOfInput c, cursor.position⟩, ⟨cursor, some (c, cursor.position)⟩)
  else
    let (outcome, after) := cursor.scanToken c
    (outcome, ⟨after, none⟩)

/-- The next token.  Once the input ended, it is the token that ended it. -/
def scan (scanner : CursorScanner) : Except LexError Token × CursorScanner :=
  match scanner.ended with
  | some (c, pos) => (.ok ⟨.endOfInput c, pos⟩, scanner)
  | none =>
    let (c, cursor) := (scanner.cursor.takeRun Cursor.blanks).2
    scanHeld c cursor

/-- The scanner that stands where the cursor does. -/
def scanner (scanner : CursorScanner) : Scanner := ⟨scanner.cursor.current, scanner.ended⟩

/-- A token is scanned as its lexeme is read, and does not end the input. -/
theorem scanHere_cons {state : ReadState} {c : Char} {rest : List Char}
    (more : isEndOfInput c = false) (solid : isBlank c = false) :
    Scanner.scanHere state.mark (c :: rest)
      = ((Cursor.came state (Lexeme.read c rest)).1,
        ⟨(Cursor.came state (Lexeme.read c rest)).2, none⟩) := by
  rw [Scanner.scanHere]
  cases read : Lexeme.read c rest with
  | error fault => rfl
  | ok lexeme =>
    have next := nextLexeme_of_read more solid read
    have running : ∀ pos, Token.isEnd ⟨lexeme.kind, pos⟩ = false := fun _ => next.spells.isEnd
    dsimp only
    rw [Scanner.behind_of_running (running _)]
    rfl

/-- Where no blank stands, the token there begins with the character in hand. -/
theorem scanHere_hold (state : ReadState) (solid : ∀ c ∈ state.rest.head?, isBlank c = false) :
    Scanner.scanHere state.mark state.rest
      = ((scanHeld state.hold.1 state.hold.2).1, (scanHeld state.hold.1 state.hold.2).2.scanner) := by
  cases spelled : state.rest with
  | nil =>
    have ends : isEndOfInput endOfText = true := by decide
    rw [ReadState.hold_nil spelled, scanHeld, if_pos ends]
    obtain ⟨rest, mark⟩ := state
    obtain rfl : rest = [] := spelled
    rfl
  | cons c rest =>
    rw [ReadState.hold_cons spelled, scanHeld]
    cases ends : isEndOfInput c with
    | true =>
      rw [if_pos rfl, Scanner.scanHere, Lexeme.read, if_pos ends]
      rfl
    | false =>
      have first : c ∈ state.rest.head? := by rw [spelled]; rfl
      rw [if_neg Bool.false_ne_true, scanHere_cons ends (solid c first),
        ← Cursor.seen_scanToken spelled ends]
      rfl

/-- **A scan off a cursor gives what the scanner gives**, and both stand at one place. -/
theorem scan_scanner (scanner : CursorScanner) :
    scanner.scanner.scan = (scanner.scan.1, scanner.scan.2.scanner) := by
  obtain ⟨cursor, ended⟩ := scanner
  cases ended with
  | some final => rfl
  | none =>
    have skips : Skips cursor.current.rest _ _ := skips_iff.mpr ⟨rfl, rfl⟩
    rw [scan, Cursor.takes_takeRun]
    exact scanHere_hold (cursor.current.past _ _) fun c first => skips.maximal c first

/-- The scanner of a text after some scans. -/
def after (source : String) : Nat → CursorScanner
  | 0 => ofString source
  | count + 1 => (after source count).scan.2

/-- **However often a text is scanned off a cursor, it is scanned as the scanner does.** -/
theorem after_scanner (source : String) (count : Nat) :
    (after source count).scanner = Scanner.after source count
      ∧ (after source count).scan.1 = Scanner.result source count := by
  have stands : (after source count).scanner = Scanner.after source count := by
    induction count with
    | zero => rfl
    | succ count ih => rw [Scanner.after, ← ih, scan_scanner, after]
  refine ⟨stands, ?_⟩
  rw [Scanner.result, ← stands, scan_scanner]

end CursorScanner

end ExprLexer
