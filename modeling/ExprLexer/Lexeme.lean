import ExprLexer.LexError
import ExprLexer.Token

/-!
The lexeme at the front of a text: the longest run of characters that makes a token.

* `numberSpelling`: the longest number at the front of a text, with what follows it;
* `Lexeme.read`: the lexeme that a character and what follows it begin with, or the fault in it;
* `Lexeme.spelling_append_rest`, `Fault.read_append_rest`: reading drops no character and adds none;
* `Lexeme.spelling_ne_nil`: every lexeme has at least one character.
-/

namespace ExprLexer

open CharClass

/-! ### Numbers -/

/-- The digits at the front, and what follows them. -/
def splitDigits (chars : List Char) : List Char × List Char :=
  (chars.takeWhile isDigit, chars.dropWhile isDigit)

/-- A point with its digits at the front, and what follows them. -/
def splitPoint : List Char → List Char × List Char
  | [] => ([], [])
  | c :: rest =>
    if c = '.' then (c :: (splitDigits rest).1, (splitDigits rest).2) else ([], c :: rest)

/-- A sign with its digits at the front, both of which may be missing, and what follows them. -/
def splitSigned : List Char → List Char × List Char
  | [] => ([], [])
  | c :: rest =>
    if isSign c then (c :: (splitDigits rest).1, (splitDigits rest).2) else splitDigits (c :: rest)

/-- An exponent at the front, and what follows it. -/
def splitExponent : List Char → List Char × List Char
  | [] => ([], [])
  | c :: rest =>
    if isExponentMarker c then (c :: (splitSigned rest).1, (splitSigned rest).2)
    else ([], c :: rest)

/-- The longest number at the front, and what follows it: digits, a point with digits, an
exponent. -/
def numberSpelling (chars : List Char) : List Char × List Char :=
  let (whole, afterWhole) := splitDigits chars
  let (fraction, afterFraction) := splitPoint afterWhole
  let (exponent, rest) := splitExponent afterFraction
  (whole ++ fraction ++ exponent, rest)

theorem splitDigits_append (chars : List Char) :
    (splitDigits chars).1 ++ (splitDigits chars).2 = chars :=
  List.takeWhile_append_dropWhile

theorem splitPoint_append (chars : List Char) :
    (splitPoint chars).1 ++ (splitPoint chars).2 = chars := by
  cases chars with
  | nil => rfl
  | cons c rest =>
    rw [splitPoint]
    split
    · simp [splitDigits_append]
    · rfl

theorem splitSigned_append (chars : List Char) :
    (splitSigned chars).1 ++ (splitSigned chars).2 = chars := by
  cases chars with
  | nil => rfl
  | cons c rest =>
    rw [splitSigned]
    split
    · simp [splitDigits_append]
    · exact splitDigits_append _

theorem splitExponent_append (chars : List Char) :
    (splitExponent chars).1 ++ (splitExponent chars).2 = chars := by
  cases chars with
  | nil => rfl
  | cons c rest =>
    rw [splitExponent]
    split
    · simp [splitSigned_append]
    · rfl

theorem numberSpelling_append (chars : List Char) :
    (numberSpelling chars).1 ++ (numberSpelling chars).2 = chars := by
  simp only [numberSpelling]
  rw [List.append_assoc, splitExponent_append, List.append_assoc, splitPoint_append,
    splitDigits_append]

/-! ### Lexemes -/

/-- The token at the front of a text. -/
structure Lexeme where
  kind : TokenKind
  spelling : List Char
  rest : List Char
deriving DecidableEq

/-- A fault at the front of a text. -/
structure Fault where
  cause : LexError.Cause
  /-- The characters up to the one that shows it. -/
  read : List Char
  rest : List Char
deriving DecidableEq

namespace Lexeme

/-- Whether a number begins here: a digit, or a point before one. -/
def startsNumber (c : Char) (rest : List Char) : Bool :=
  isDigit c || (c == '.' && rest.head?.any isDigit)

/-- A number; a point or an exponent right behind it is a fault. -/
def readNumber (chars : List Char) : Except Fault Lexeme :=
  let (spelling, rest) := numberSpelling chars
  match rest with
  | [] => .ok ⟨.numberLiteral (String.ofList spelling), spelling, []⟩
  | c :: after =>
    if c = '.' then .error ⟨.unexpectedDecimalSeparator, spelling ++ [c], after⟩
    else if isExponentMarker c then .error ⟨.unexpectedExponentMarker, spelling ++ [c], after⟩
    else .ok ⟨.numberLiteral (String.ofList spelling), spelling, c :: after⟩

/-- A string behind its opening quote, verbatim up to the same quote. -/
def readString (quote : Char) (chars : List Char) : Except Fault Lexeme :=
  let content := chars.takeWhile (· != quote)
  match chars.dropWhile (· != quote) with
  | [] => .error ⟨.unterminatedString quote, quote :: chars, []⟩
  | closing :: rest =>
    .ok ⟨.stringLiteral (String.ofList content), quote :: (content ++ [closing]), rest⟩

/-- An identifier behind its first character; a first character that cannot begin one is a
fault. -/
def readIdentifier (first : Char) (chars : List Char) : Except Fault Lexeme :=
  if isIdentStart first then
    .ok ⟨.identifier (String.ofList (first :: chars.takeWhile isIdentContinue)),
      first :: chars.takeWhile isIdentContinue, chars.dropWhile isIdentContinue⟩
  else .error ⟨.invalidIdentifierStart first, [first], chars⟩

/-- An operator of one character, or a delimiter if the character spells none. -/
def readSingle (first : Char) (rest : List Char) : Lexeme :=
  match Operator.lookup first none with
  | some op => ⟨.operator op, [first], rest⟩
  | none => ⟨.delimiter first, [first], rest⟩

/-- An operator behind its first character; two characters win over one. -/
def readOperator (first : Char) : List Char → Lexeme
  | [] => readSingle first []
  | second :: rest =>
    match Operator.lookup first (some second) with
    | some op => ⟨.operator op, [first, second], rest⟩
    | none => readSingle first (second :: rest)

/-- The lexeme that `c` and what follows it begin with.  The classes are tried in order. -/
def read (c : Char) (rest : List Char) : Except Fault Lexeme :=
  if isEndOfInput c then .ok ⟨.endOfInput c, [c], rest⟩
  else if startsNumber c rest then readNumber (c :: rest)
  else if isQuote c then readString c rest
  else if isIdentStart c then readIdentifier c rest
  else if isOperatorStart c then .ok (readOperator c rest)
  else .ok ⟨.delimiter c, [c], rest⟩

/-! ### Reading keeps every character -/

theorem readNumber_append {chars : List Char} {lexeme : Lexeme}
    (done : readNumber chars = .ok lexeme) : lexeme.spelling ++ lexeme.rest = chars := by
  have whole := numberSpelling_append chars
  unfold readNumber at done
  revert done whole
  generalize numberSpelling chars = parts
  obtain ⟨spelling, rest⟩ := parts
  cases rest with
  | nil =>
    intro done whole
    obtain rfl := Except.ok.inj done
    exact whole
  | cons c after =>
    intro done whole
    simp only at done
    split at done
    · cases done
    · split at done
      · cases done
      · obtain rfl := Except.ok.inj done
        exact whole

theorem readString_append {quote : Char} {chars : List Char} {lexeme : Lexeme}
    (done : readString quote chars = .ok lexeme) :
    lexeme.spelling ++ lexeme.rest = quote :: chars := by
  have whole : chars.takeWhile (· != quote) ++ chars.dropWhile (· != quote) = chars :=
    List.takeWhile_append_dropWhile
  unfold readString at done
  split at done
  · cases done
  · next closing rest found =>
    obtain rfl := Except.ok.inj done
    rw [found] at whole
    simp [whole]

theorem readIdentifier_append {first : Char} {chars : List Char} {lexeme : Lexeme}
    (done : readIdentifier first chars = .ok lexeme) :
    lexeme.spelling ++ lexeme.rest = first :: chars := by
  unfold readIdentifier at done
  split at done
  · obtain rfl := Except.ok.inj done
    simp [List.takeWhile_append_dropWhile]
  · cases done

theorem readSingle_append (first : Char) (chars : List Char) :
    (readSingle first chars).spelling ++ (readSingle first chars).rest = first :: chars := by
  unfold readSingle
  split <;> rfl

theorem readOperator_append (first : Char) (chars : List Char) :
    (readOperator first chars).spelling ++ (readOperator first chars).rest = first :: chars := by
  cases chars with
  | nil => exact readSingle_append first []
  | cons second rest =>
    rw [readOperator]
    split
    · rfl
    · exact readSingle_append first (second :: rest)

/-- Reading a lexeme drops no character and adds none. -/
theorem spelling_append_rest {c : Char} {rest : List Char} {lexeme : Lexeme}
    (done : read c rest = .ok lexeme) : lexeme.spelling ++ lexeme.rest = c :: rest := by
  unfold read at done
  split at done
  · obtain rfl := Except.ok.inj done
    rfl
  split at done
  · exact readNumber_append done
  split at done
  · exact readString_append done
  split at done
  · exact readIdentifier_append done
  split at done
  · obtain rfl := Except.ok.inj done
    exact readOperator_append c rest
  · obtain rfl := Except.ok.inj done
    rfl

/-! ### Every lexeme has a character -/

theorem numberSpelling_ne_nil {c : Char} {rest : List Char} (starts : startsNumber c rest = true) :
    (numberSpelling (c :: rest)).1 ≠ [] := by
  unfold startsNumber at starts
  rw [Bool.or_eq_true, Bool.and_eq_true, beq_iff_eq] at starts
  rcases starts with digit | ⟨rfl, -⟩
  · simp [numberSpelling, splitDigits, digit]
  · have noDigit : isDigit '.' = false := by decide
    simp [numberSpelling, splitDigits, splitPoint, noDigit]

theorem readNumber_spelling {chars : List Char} {lexeme : Lexeme}
    (done : readNumber chars = .ok lexeme) : lexeme.spelling = (numberSpelling chars).1 := by
  unfold readNumber at done
  revert done
  generalize numberSpelling chars = parts
  obtain ⟨spelling, rest⟩ := parts
  cases rest with
  | nil =>
    intro done
    obtain rfl := Except.ok.inj done
    rfl
  | cons c after =>
    intro done
    simp only at done
    split at done
    · cases done
    · split at done
      · cases done
      · obtain rfl := Except.ok.inj done
        rfl

/-- Every lexeme has at least one character. -/
theorem spelling_ne_nil {c : Char} {rest : List Char} {lexeme : Lexeme}
    (done : read c rest = .ok lexeme) : lexeme.spelling ≠ [] := by
  unfold read at done
  split at done
  · obtain rfl := Except.ok.inj done
    simp
  split at done
  · next starts =>
    rw [readNumber_spelling done]
    exact numberSpelling_ne_nil starts
  split at done
  · unfold readString at done
    split at done
    · cases done
    · obtain rfl := Except.ok.inj done
      simp
  split at done
  · next starts =>
    rw [readIdentifier, if_pos starts] at done
    obtain rfl := Except.ok.inj done
    simp
  split at done
  · obtain rfl := Except.ok.inj done
    unfold readOperator
    split
    · unfold readSingle
      split <;> simp
    · split
      · simp
      · unfold readSingle
        split <;> simp
  · obtain rfl := Except.ok.inj done
    simp

/-- Reading a lexeme leaves less to read. -/
theorem length_rest_lt {c : Char} {rest : List Char} {lexeme : Lexeme}
    (done : read c rest = .ok lexeme) : lexeme.rest.length < (c :: rest).length := by
  have whole := congrArg List.length (spelling_append_rest done)
  have some := List.length_pos_iff.mpr (spelling_ne_nil done)
  rw [List.length_append] at whole
  omega

end Lexeme

/-- Reading up to a fault drops no character and adds none. -/
theorem Fault.read_append_rest {c : Char} {rest : List Char} {fault : Fault}
    (failed : Lexeme.read c rest = .error fault) : fault.read ++ fault.rest = c :: rest := by
  unfold Lexeme.read at failed
  split at failed
  · cases failed
  split at failed
  · have whole := numberSpelling_append (c :: rest)
    unfold Lexeme.readNumber at failed
    revert failed whole
    generalize numberSpelling (c :: rest) = parts
    obtain ⟨spelling, after⟩ := parts
    cases after with
    | nil => intro failed; cases failed
    | cons d after =>
      intro failed whole
      simp only at failed
      split at failed
      · obtain rfl := Except.error.inj failed
        simpa using whole
      · split at failed
        · obtain rfl := Except.error.inj failed
          simpa using whole
        · cases failed
  split at failed
  · unfold Lexeme.readString at failed
    split at failed
    · obtain rfl := Except.error.inj failed
      simp
    · cases failed
  split at failed
  · next starts =>
    rw [Lexeme.readIdentifier, if_pos starts] at failed
    cases failed
  split at failed <;> cases failed

end ExprLexer
