import ExprLexer.Lexeme

/-!
The grammar of lexemes, told without the functions that read them.

* `Grammar.Number`: `(digit+ ('.' digit*)? | '.' digit+) ([eE] [+-]? digit*)?`;
* `Grammar.Spells`: which characters spell which kind of token;
* `Grammar.Longest`: the longest front of a text that has a property;
* `Grammar.NextLexeme`: the longest front of a text that spells a token;
* `Grammar.Skips`: the blanks at the front of a text;
* `Grammar.Spells.kind_unique`: **the grammar is unambiguous**: characters spell at most one kind;
* `Grammar.NextLexeme.unique`: a text has at most one next lexeme.

Each kind is recognised by its first character, since the classes of first characters do not
overlap (`CharClass.apart_of_quote`, `CharClass.apart_of_operatorStart`).  The only character that
begins two kinds is the point, which spells a delimiter alone and a number before digits.
-/

namespace ExprLexer

/-! ### The classes of first characters do not overlap -/

namespace CharClass

theorem isIdentStart_of_lt {c : Char} (low : c.toNat < 0x41) : isIdentStart c = false := by
  have notLetter : isLetter c = false := by
    unfold isLetter Unicode.CodeRanges.contains Unicode.alphabetic
    rw [Unicode.CodeRanges.containsCode, if_pos low]
  have notUnderscore : (c == '_') = false := by
    rw [beq_eq_false_iff_ne]
    rintro rfl
    exact absurd low (by decide)
  rw [isIdentStart, notLetter, notUnderscore]
  rfl

theorem isIdentStart_of_digit {c : Char} (digit : isDigit c = true) : isIdentStart c = false := by
  unfold isDigit at digit
  rw [Bool.and_eq_true, decide_eq_true_eq, decide_eq_true_eq] at digit
  have upper : c.toNat ≤ 57 := digit.2
  exact isIdentStart_of_lt (by omega)

/-- A quote begins nothing but a string. -/
theorem apart_of_quote {c : Char} (quotes : isQuote c = true) :
    isEndOfInput c = false ∧ isDigit c = false ∧ c ≠ '.' ∧ isIdentStart c = false
      ∧ isOperatorStart c = false := by
  unfold isQuote at quotes
  rw [Bool.or_eq_true, beq_iff_eq, beq_iff_eq] at quotes
  rcases quotes with rfl | rfl
  · exact ⟨by decide, by decide, by decide, by decide, by decide⟩
  · exact ⟨by decide, by decide, by decide, by decide, by decide⟩

/-- What begins an operator begins no number, string or identifier. -/
theorem apart_of_operatorStart {c : Char} (starts : isOperatorStart c = true) :
    isDigit c = false ∧ c ≠ '.' ∧ isQuote c = false ∧ isIdentStart c = false := by
  unfold isOperatorStart at starts
  simp only [List.contains_iff_mem, List.mem_cons, List.not_mem_nil, or_false] at starts
  rcases starts with rfl | rfl | rfl | rfl | rfl | rfl | rfl | rfl | rfl | rfl | rfl <;>
    exact ⟨by decide, by decide, by decide, by decide⟩

theorem apart_of_exponentMarker {c : Char} (marks : isExponentMarker c = true) :
    isDigit c = false ∧ c ≠ '.' := by
  unfold isExponentMarker at marks
  rw [Bool.or_eq_true, beq_iff_eq, beq_iff_eq] at marks
  rcases marks with rfl | rfl
  · exact ⟨by decide, by decide⟩
  · exact ⟨by decide, by decide⟩

theorem isSign_of_digit {c : Char} (digit : isDigit c = true) : isSign c = false := by
  cases signs : isSign c with
  | false => rfl
  | true =>
    unfold isSign at signs
    rw [Bool.or_eq_true, beq_iff_eq, beq_iff_eq] at signs
    rcases signs with rfl | rfl
    · exact absurd digit (by decide)
    · exact absurd digit (by decide)

end CharClass

namespace Grammar

open CharClass

/-! ### The grammar -/

/-- Digits and nothing else. -/
def Digits (chars : List Char) : Prop := ∀ c ∈ chars, isDigit c = true

/-- A number up to its exponent: `digit+ ('.' digit*)? | '.' digit+`. -/
inductive Mantissa : List Char → Prop
  | whole {digits : List Char} (some : digits ≠ []) (all : Digits digits) : Mantissa digits
  | pointed {digits fraction : List Char} (some : digits ≠ []) (all : Digits digits)
      (behind : Digits fraction) : Mantissa (digits ++ '.' :: fraction)
  | point {fraction : List Char} (some : fraction ≠ []) (behind : Digits fraction) :
      Mantissa ('.' :: fraction)

/-- The exponent of a number: `[eE] [+-]? digit*`. -/
inductive Exponent : List Char → Prop
  | plain {marker : Char} {digits : List Char} (marks : isExponentMarker marker = true)
      (all : Digits digits) : Exponent (marker :: digits)
  | signed {marker sign : Char} {digits : List Char} (marks : isExponentMarker marker = true)
      (signs : isSign sign = true) (all : Digits digits) : Exponent (marker :: sign :: digits)

/-- A number: `(digit+ ('.' digit*)? | '.' digit+) ([eE] [+-]? digit*)?`. -/
inductive Number : List Char → Prop
  | plain {mantissa : List Char} (front : Mantissa mantissa) : Number mantissa
  | scaled {mantissa exponent : List Char} (front : Mantissa mantissa)
      (back : Exponent exponent) : Number (mantissa ++ exponent)

/-- Which characters spell which kind of token. -/
inductive Spells : TokenKind → List Char → Prop
  | identifier {first : Char} {more : List Char} (starts : isIdentStart first = true)
      (continues : ∀ c ∈ more, isIdentContinue c = true) :
      Spells (.identifier (String.ofList (first :: more))) (first :: more)
  | number {chars : List Char} (number : Number chars) :
      Spells (.numberLiteral (String.ofList chars)) chars
  | string {quote : Char} {content : List Char} (quotes : isQuote quote = true)
      (plain : quote ∉ content) :
      Spells (.stringLiteral (String.ofList content)) (quote :: (content ++ [quote]))
  | operator {op : Operator} {chars : List Char} (known : op ∈ Operator.all)
      (symbol : op.symbol = chars) : Spells (.operator op) chars
  | delimiter {c : Char} (solid : isBlank c = false) (goesOn : isEndOfInput c = false)
      (noDigit : isDigit c = false) (noQuote : isQuote c = false)
      (noLetter : isIdentStart c = false) (noOperator : ∀ op ∈ Operator.all, op.symbol ≠ [c]) :
      Spells (.delimiter c) [c]

/-- The longest front of a text that has a property. -/
structure Longest (property : List Char → Prop) (chars front : List Char) : Prop where
  isFront : front <+: chars
  holds : property front
  longest : ∀ other, other <+: chars → property other → other.length ≤ front.length

/-- Whether some characters spell a token. -/
def IsLexeme (chars : List Char) : Prop := ∃ kind, Spells kind chars

/-- The longest front of a text that spells a token, and what follows it. -/
structure NextLexeme (chars : List Char) (kind : TokenKind) (spelling rest : List Char) :
    Prop where
  whole : spelling ++ rest = chars
  spells : Spells kind spelling
  longest : Longest IsLexeme chars spelling

/-- The blanks at the front of a text, and what stands behind them. -/
structure Skips (chars blanks solid : List Char) : Prop where
  whole : blanks ++ solid = chars
  blank : ∀ c ∈ blanks, isBlank c = true
  maximal : ∀ c ∈ solid.head?, isBlank c = false

theorem Longest.unique {property : List Char → Prop} {chars first second : List Char}
    (one : Longest property chars first) (other : Longest property chars second) :
    first = second := by
  have same : first.length = second.length :=
    Nat.le_antisymm (other.longest first one.isFront one.holds)
      (one.longest second other.isFront other.holds)
  exact (List.prefix_of_prefix_length_le one.isFront other.isFront (Nat.le_of_eq same)).eq_of_length same

/-! ### A number by its first character -/

theorem Mantissa.head {chars : List Char} (mantissa : Mantissa chars) :
    ∃ c tail, chars = c :: tail ∧ (isDigit c = true ∨ c = '.' ∧ tail.head?.any isDigit) := by
  cases mantissa with
  | whole some all =>
    obtain ⟨c, tail, rfl⟩ := List.exists_cons_of_ne_nil some
    exact ⟨c, tail, rfl, Or.inl (all c (by simp))⟩
  | pointed some all behind =>
    obtain ⟨c, tail, rfl⟩ := List.exists_cons_of_ne_nil some
    exact ⟨c, _, rfl, Or.inl (all c (by simp))⟩
  | point some behind =>
    obtain ⟨d, tail, rfl⟩ := List.exists_cons_of_ne_nil some
    exact ⟨'.', _, rfl, Or.inr ⟨rfl, behind d (by simp)⟩⟩

/-- A number begins with a digit, or with a point before one. -/
theorem Number.head {chars : List Char} (number : Number chars) :
    ∃ c tail, chars = c :: tail ∧ (isDigit c = true ∨ c = '.' ∧ tail.head?.any isDigit) := by
  cases number with
  | plain front => exact front.head
  | scaled front back =>
    obtain ⟨c, tail, rfl, starts⟩ := front.head
    refine ⟨c, _, rfl, starts.imp_right fun ⟨point, digit⟩ => ⟨point, ?_⟩⟩
    cases tail with
    | nil => simp at digit
    | cons d tail => exact digit

theorem Number.startsNumber {c : Char} {rest number : List Char} (spelled : Number number)
    (front : number <+: c :: rest) : Lexeme.startsNumber c rest = true := by
  obtain ⟨d, tail, rfl, starts⟩ := spelled.head
  obtain ⟨rfl, tailFront⟩ := List.cons_prefix_cons.mp front
  unfold Lexeme.startsNumber
  rcases starts with digit | ⟨rfl, digit⟩
  · rw [digit, Bool.true_or]
  · obtain ⟨more, rfl⟩ := tailFront
    cases tail with
    | nil => simp at digit
    | cons e tail => simpa using Or.inr digit

theorem skips_iff {chars blanks solid : List Char} :
    Skips chars blanks solid
      ↔ blanks = chars.takeWhile isBlank ∧ solid = chars.dropWhile isBlank := by
  constructor
  · rintro ⟨rfl, blank, maximal⟩
    rw [List.takeWhile_append_of_pos blank, List.dropWhile_append_of_pos blank]
    cases solid with
    | nil => simp
    | cons c rest => simp [maximal c rfl]
  · rintro ⟨rfl, rfl⟩
    refine ⟨List.takeWhile_append_dropWhile, fun c member => ?_, fun c first => ?_⟩
    · exact List.all_eq_true.mp List.all_takeWhile c member
    · have stop := List.head?_dropWhile_not isBlank chars
      rw [first] at stop
      simpa using stop

theorem Skips.unique {chars blanks blanks' solid solid' : List Char}
    (one : Skips chars blanks solid) (other : Skips chars blanks' solid') :
    blanks = blanks' ∧ solid = solid' := by
  obtain ⟨rfl, rfl⟩ := skips_iff.mp one
  obtain ⟨rfl, rfl⟩ := skips_iff.mp other
  exact ⟨rfl, rfl⟩

theorem not_number_point : ¬ Number ['.'] := by
  intro number
  obtain ⟨c, tail, same, starts⟩ := number.head
  obtain ⟨rfl, rfl⟩ := List.cons.inj same
  exact absurd starts (by decide)

/-! ### A kind by the first character of its spelling -/

theorem symbol_ne_nil (op : Operator) : op.symbol ≠ [] := by
  cases op <;> decide

theorem isOperatorStart_of_symbol {op : Operator} {c : Char} {tail : List Char}
    (symbol : op.symbol = c :: tail) : isOperatorStart c = true := by
  have each : ∀ op : Operator, op.symbol.head?.all isOperatorStart = true := by
    intro op
    cases op <;> decide
  have starts := each op
  rwa [symbol] at starts

namespace Spells

variable {kind : TokenKind} {c : Char} {tail : List Char}

theorem of_digit (digit : isDigit c = true) (spelled : Spells kind (c :: tail)) :
    Number (c :: tail) ∧ kind = .numberLiteral (String.ofList (c :: tail)) := by
  cases spelled with
  | identifier starts continues => simp [isIdentStart_of_digit digit] at starts
  | number number => exact ⟨number, rfl⟩
  | string quotes plain => simp [(apart_of_quote quotes).2.1] at digit
  | operator known symbol =>
    simp [(apart_of_operatorStart (isOperatorStart_of_symbol symbol)).1] at digit
  | delimiter solid goesOn noDigit noQuote noLetter noOperator => simp [digit] at noDigit

/-- What begins with a point is a number, or the point alone. -/
theorem of_point (spelled : Spells kind ('.' :: tail)) :
    (Number ('.' :: tail) ∧ kind = .numberLiteral (String.ofList ('.' :: tail)))
      ∨ (tail = [] ∧ kind = .delimiter '.') := by
  cases spelled with
  | identifier starts continues => exact absurd starts (by decide)
  | number number => exact Or.inl ⟨number, rfl⟩
  | string quotes plain => exact absurd rfl (apart_of_quote quotes).2.2.1
  | operator known symbol =>
    exact absurd rfl (apart_of_operatorStart (isOperatorStart_of_symbol symbol)).2.1
  | delimiter solid goesOn noDigit noQuote noLetter noOperator => exact Or.inr ⟨rfl, rfl⟩

theorem of_quote (quotes : isQuote c = true) (spelled : Spells kind (c :: tail)) :
    ∃ content, c ∉ content ∧ tail = content ++ [c]
      ∧ kind = .stringLiteral (String.ofList content) := by
  obtain ⟨-, noDigit, noPoint, noLetter, noOperator⟩ := apart_of_quote quotes
  cases spelled with
  | identifier starts continues => simp [noLetter] at starts
  | number number =>
    obtain ⟨d, more, same, starts⟩ := number.head
    obtain ⟨rfl, rfl⟩ := List.cons.inj same
    rcases starts with digit | ⟨point, -⟩
    · simp [noDigit] at digit
    · exact absurd point noPoint
  | string quotes plain => exact ⟨_, plain, rfl, rfl⟩
  | operator known symbol => simp [isOperatorStart_of_symbol symbol] at noOperator
  | delimiter solid goesOn noDigit noQuote noLetter noOperator => simp [quotes] at noQuote

theorem of_identStart (starts : isIdentStart c = true) (spelled : Spells kind (c :: tail)) :
    (∀ d ∈ tail, isIdentContinue d = true)
      ∧ kind = .identifier (String.ofList (c :: tail)) := by
  cases spelled with
  | identifier _ continues => exact ⟨continues, rfl⟩
  | number number =>
    obtain ⟨d, more, same, numberStarts⟩ := number.head
    obtain ⟨rfl, rfl⟩ := List.cons.inj same
    rcases numberStarts with digit | ⟨rfl, -⟩
    · simp [isIdentStart_of_digit digit] at starts
    · exact absurd starts (by decide)
  | string quotes plain => simp [(apart_of_quote quotes).2.2.2.1] at starts
  | operator known symbol =>
    simp [(apart_of_operatorStart (isOperatorStart_of_symbol symbol)).2.2.2] at starts
  | delimiter solid goesOn noDigit noQuote noLetter noOperator => simp [starts] at noLetter

/-- What begins with any other character is an operator, or that character alone as a
delimiter. -/
theorem of_other (noNumber : ¬ Number (c :: tail)) (noQuote : isQuote c = false)
    (noLetter : isIdentStart c = false) (spelled : Spells kind (c :: tail)) :
    (∃ op, op.symbol = c :: tail ∧ kind = .operator op)
      ∨ (tail = [] ∧ kind = .delimiter c ∧ ∀ op ∈ Operator.all, op.symbol ≠ [c]) := by
  cases spelled with
  | identifier starts continues => simp [noLetter] at starts
  | number number => exact absurd number noNumber
  | string quotes plain => simp [noQuote] at quotes
  | operator known symbol => exact Or.inl ⟨_, symbol, rfl⟩
  | delimiter solid goesOn _ _ _ noOperator => exact Or.inr ⟨rfl, rfl, noOperator⟩

theorem ne_nil {chars : List Char} (spelled : Spells kind chars) : chars ≠ [] := by
  cases spelled with
  | identifier starts continues => simp
  | number number =>
    obtain ⟨d, more, rfl, -⟩ := number.head
    simp
  | string quotes plain => simp
  | operator known symbol =>
    rw [← symbol]
    exact symbol_ne_nil _
  | delimiter solid goesOn noDigit noQuote noLetter noOperator => simp

/-- **The grammar is unambiguous.** -/
theorem kind_unique {first second : TokenKind} {chars : List Char} (one : Spells first chars)
    (other : Spells second chars) : first = second := by
  obtain ⟨c, tail, rfl⟩ := List.exists_cons_of_ne_nil one.ne_nil
  by_cases digit : isDigit c = true
  · rw [(of_digit digit one).2, (of_digit digit other).2]
  by_cases point : c = '.'
  · subst point
    rcases of_point one with ⟨number, kind⟩ | ⟨rfl, kind⟩
    · rcases of_point other with ⟨-, otherKind⟩ | ⟨rfl, -⟩
      · rw [kind, otherKind]
      · exact absurd number not_number_point
    · rcases of_point other with ⟨number, -⟩ | ⟨-, otherKind⟩
      · exact absurd number not_number_point
      · rw [kind, otherKind]
  by_cases quotes : isQuote c = true
  · obtain ⟨content, -, same, kind⟩ := of_quote quotes one
    obtain ⟨otherContent, -, otherSame, otherKind⟩ := of_quote quotes other
    rw [same] at otherSame
    rw [kind, otherKind, (List.append_inj' otherSame rfl).1]
  by_cases starts : isIdentStart c = true
  · rw [(of_identStart starts one).2, (of_identStart starts other).2]
  have noNumber : ¬ Number (c :: tail) := by
    intro number
    obtain ⟨d, more, same, begins⟩ := number.head
    obtain ⟨rfl, rfl⟩ := List.cons.inj same
    exact begins.elim digit fun begins => point begins.1
  rw [Bool.not_eq_true] at quotes starts
  rcases of_other noNumber quotes starts one with ⟨op, symbol, kind⟩ | ⟨rfl, kind, none⟩
  · rcases of_other noNumber quotes starts other with ⟨op', symbol', kind'⟩ | ⟨rfl, -, none⟩
    · rw [kind, kind', Operator.symbol_injective (symbol.trans symbol'.symm)]
    · exact absurd symbol (none op op.mem_all)
  · rcases of_other noNumber quotes starts other with ⟨op', symbol', -⟩ | ⟨-, kind', -⟩
    · exact absurd symbol' (none op' op'.mem_all)
    · rw [kind, kind']

end Spells

theorem NextLexeme.unique {chars spelling spelling' rest rest' : List Char}
    {kind kind' : TokenKind} (one : NextLexeme chars kind spelling rest)
    (other : NextLexeme chars kind' spelling' rest') :
    kind = kind' ∧ spelling = spelling' ∧ rest = rest' := by
  obtain rfl := one.longest.unique other.longest
  exact ⟨one.spells.kind_unique other.spells, rfl,
    List.append_cancel_left (one.whole.trans other.whole.symm)⟩

end Grammar

end ExprLexer
