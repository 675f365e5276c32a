import ExprLexer.Proofs.LongestNumber

/-!
The lexeme read at the front of a text is the longest one.

* `longest_of_startsNumber`, `longest_of_quote`, `longest_of_identStart`, `nextLexeme_readOperator`,
  `nextLexeme_delimiter`: one statement for each class of first characters;
* `nextLexeme_of_read`: **what is read is the next lexeme of the grammar**.

Each branch of `Lexeme.read` reads one class of first characters.  For the longest front it is
enough to bound the spellings that begin with that character (`longest_of_bound`), and these are
all of one kind (`Spells.of_digit`, `Spells.of_quote`, `Spells.of_identStart`, `Spells.of_other`).
-/

namespace ExprLexer

open CharClass Grammar

/-! ### Spans of characters -/

/-- A span ends where its property does. -/
theorem takeWhile_of_stop {p : Char → Bool} {front : List Char} (all : ∀ c ∈ front, p c = true)
    {c : Char} (stop : p c = false) (rest : List Char) :
    (front ++ c :: rest).takeWhile p = front := by
  rw [List.takeWhile_append_of_pos all, List.takeWhile_cons_of_neg (by simp [stop]),
    List.append_nil]

/-- A front whose characters have a property is within the span of that property. -/
theorem length_le_takeWhile {p : Char → Bool} {front chars : List Char} (isFront : front <+: chars)
    (all : ∀ c ∈ front, p c = true) : front.length ≤ (chars.takeWhile p).length := by
  obtain ⟨rest, rfl⟩ := isFront
  rw [List.takeWhile_append_of_pos all]
  exact (List.prefix_append _ _).length_le

theorem all_ne_of_not_mem {quote : Char} {chars : List Char} (absent : quote ∉ chars) :
    ∀ c ∈ chars, (c != quote) = true := by
  intro c member
  rw [bne_iff_ne]
  rintro rfl
  exact absent member

theorem not_mem_takeWhile_ne (quote : Char) (chars : List Char) :
    quote ∉ chars.takeWhile (· != quote) := by
  intro member
  simpa using List.mem_takeWhile_imp member

/-! ### Where a number begins -/

/-- What begins a number is a digit or a point. -/
theorem startsNumber_cases {c : Char} {rest : List Char}
    (starts : Lexeme.startsNumber c rest = true) : isDigit c = true ∨ c = '.' := by
  unfold Lexeme.startsNumber at starts
  rw [Bool.or_eq_true, Bool.and_eq_true, beq_iff_eq] at starts
  exact starts.imp_right fun point => point.1

theorem isEndOfInput_of_startsNumber {c : Char} {rest : List Char}
    (starts : Lexeme.startsNumber c rest = true) : isEndOfInput c = false := by
  rcases startsNumber_cases starts with digit | rfl
  · cases ends : isEndOfInput c with
    | false => rfl
    | true =>
      unfold isEndOfInput at ends
      rw [Bool.or_eq_true, beq_iff_eq, beq_iff_eq] at ends
      rcases ends with rfl | rfl
      · exact absurd digit (by decide)
      · exact absurd digit (by decide)
  · decide

theorem startsNumber_of_quote {c : Char} (quotes : isQuote c = true) (rest : List Char) :
    Lexeme.startsNumber c rest = false := by
  cases starts : Lexeme.startsNumber c rest with
  | false => rfl
  | true =>
    obtain ⟨-, noDigit, noPoint, -⟩ := apart_of_quote quotes
    rcases startsNumber_cases starts with digit | point
    · simp [noDigit] at digit
    · exact absurd point noPoint

/-! ### The longest front -/

/-- A spelling is the longest front if it bounds the spellings that begin with the same
character. -/
theorem longest_of_bound {c : Char} {rest spelling : List Char} (isFront : spelling <+: c :: rest)
    (holds : IsLexeme spelling)
    (bound : ∀ kind tail, tail <+: rest → Spells kind (c :: tail) →
      (c :: tail).length ≤ spelling.length) :
    Longest IsLexeme (c :: rest) spelling where
  isFront := isFront
  holds := holds
  longest other front lexeme := by
    obtain ⟨kind, spelled⟩ := lexeme
    obtain ⟨d, tail, rfl⟩ := List.exists_cons_of_ne_nil spelled.ne_nil
    obtain ⟨rfl, tailFront⟩ := List.cons_prefix_cons.mp front
    exact bound kind tail tailFront spelled

theorem longest_of_startsNumber {c : Char} {rest spelling : List Char}
    (starts : Lexeme.startsNumber c rest = true)
    (number : Longest Number (c :: rest) spelling) : Longest IsLexeme (c :: rest) spelling := by
  refine longest_of_bound number.isFront ⟨_, .number number.holds⟩ fun kind tail front spelled => ?_
  have isFront : c :: tail <+: c :: rest := List.cons_prefix_cons.mpr ⟨rfl, front⟩
  rcases startsNumber_cases starts with digit | rfl
  · exact number.longest _ isFront (spelled.of_digit digit).1
  · rcases spelled.of_point with ⟨isNumber, -⟩ | ⟨rfl, -⟩
    · exact number.longest _ isFront isNumber
    · exact List.length_pos_iff.mpr (Spells.number number.holds).ne_nil

/-- A string ends at the first quote like the one it begins with. -/
theorem longest_of_quote {quote : Char} {content : List Char} (quotes : isQuote quote = true)
    (plain : quote ∉ content) (rest : List Char) :
    Longest IsLexeme (quote :: (content ++ quote :: rest)) (quote :: (content ++ [quote])) := by
  refine longest_of_bound ⟨rest, by simp⟩ ⟨_, .string quotes plain⟩ fun kind tail front spelled => ?_
  obtain ⟨other, otherPlain, rfl, -⟩ := spelled.of_quote quotes
  have stops : ∀ chars : List Char, quote ∉ chars → ∀ more,
      (chars ++ quote :: more).takeWhile (· != quote) = chars := by
    intro chars absent more
    exact takeWhile_of_stop (all_ne_of_not_mem absent) (by simp) more
  obtain ⟨more, same⟩ := front
  have whole : other ++ quote :: more = content ++ quote :: rest := by simpa using same
  have equal := congrArg (List.takeWhile (· != quote)) whole
  rw [stops other otherPlain, stops content plain] at equal
  rw [equal]

theorem longest_of_identStart {c : Char} (starts : isIdentStart c = true) (rest : List Char) :
    Longest IsLexeme (c :: rest) (c :: rest.takeWhile isIdentContinue) := by
  have front : c :: rest.takeWhile isIdentContinue <+: c :: rest :=
    List.cons_prefix_cons.mpr ⟨rfl, List.takeWhile_prefix _⟩
  have identifier := Spells.identifier starts fun d (member : d ∈ rest.takeWhile isIdentContinue) =>
    List.mem_takeWhile_imp member
  refine longest_of_bound front ⟨_, identifier⟩ fun kind tail tailFront spelled => ?_
  have continues := (spelled.of_identStart starts).1
  simpa using length_le_takeWhile tailFront continues

theorem length_symbol_le (op : Operator) : op.symbol.length ≤ 2 := by
  cases op <;> decide

/-- What begins like an operator is one, or that character alone. -/
theorem symbol_or_nil_of_spells {c : Char} {tail : List Char} {kind : TokenKind}
    (starts : isOperatorStart c = true) (spelled : Spells kind (c :: tail)) :
    (∃ op : Operator, op.symbol = c :: tail) ∨ tail = [] := by
  obtain ⟨noDigit, noPoint, noQuote, noLetter⟩ := apart_of_operatorStart starts
  have noNumber : ¬ Number (c :: tail) := by
    intro number
    rcases startsNumber_cases (number.startsNumber List.prefix_rfl) with digit | point
    · simp [noDigit] at digit
    · exact noPoint point
  rcases spelled.of_other noNumber noQuote noLetter with ⟨op, symbol, -⟩ | ⟨none, -⟩
  · exact Or.inl ⟨op, symbol⟩
  · exact Or.inr none

section Operators

variable {first : Char} (starts : isOperatorStart first = true)
  (goesOn : isEndOfInput first = false) (solid : isBlank first = false)

include starts goesOn solid

/-- A character that begins operators spells one alone, or a delimiter. -/
theorem spells_readSingle (rest : List Char) :
    Spells (Lexeme.readSingle first rest).kind [first]
      ∧ (Lexeme.readSingle first rest).spelling = [first] := by
  obtain ⟨noDigit, -, noQuote, noLetter⟩ := apart_of_operatorStart starts
  unfold Lexeme.readSingle
  split
  · next op found => exact ⟨.operator op.mem_all (Operator.lookup_eq_some_iff.mp found), rfl⟩
  · next missed =>
    refine ⟨.delimiter solid goesOn noDigit noQuote noLetter fun op _ symbol => ?_, rfl⟩
    rw [Operator.lookup_eq_some_iff.mpr symbol] at missed
    cases missed

/-- The character is taken alone if it spells no operator with the next one. -/
theorem nextLexeme_readSingle {rest : List Char}
    (noPair : ∀ (op : Operator) (second : Char), [second] <+: rest → op.symbol ≠ [first, second]) :
    NextLexeme (first :: rest) (Lexeme.readSingle first rest).kind
      (Lexeme.readSingle first rest).spelling (Lexeme.readSingle first rest).rest := by
  obtain ⟨spells, alone⟩ := spells_readSingle starts goesOn solid rest
  have whole := Lexeme.readSingle_append first rest
  rw [alone] at whole ⊢
  refine ⟨whole, spells, longest_of_bound ⟨_, whole⟩ ⟨_, spells⟩ fun kind tail front spelled => ?_⟩
  rcases symbol_or_nil_of_spells starts spelled with ⟨op, symbol⟩ | rfl
  · have short := length_symbol_le op
    rw [symbol] at short
    match tail, short with
    | [], _ => rfl
    | [second], _ => exact absurd symbol (noPair op second front)
    | _ :: _ :: _, short => simp at short
  · rfl

/-- Two characters that spell an operator win over one. -/
theorem nextLexeme_readOperator (rest : List Char) :
    NextLexeme (first :: rest) (Lexeme.readOperator first rest).kind
      (Lexeme.readOperator first rest).spelling (Lexeme.readOperator first rest).rest := by
  cases rest with
  | nil =>
    refine nextLexeme_readSingle starts goesOn solid fun op second front => ?_
    simp at front
  | cons second more =>
    rw [Lexeme.readOperator]
    split
    · next op found =>
      have symbol : op.symbol = [first, second] := Operator.lookup_eq_some_iff.mp found
      have spells : Spells (.operator op) [first, second] := .operator op.mem_all symbol
      refine ⟨rfl, spells, longest_of_bound ⟨more, rfl⟩ ⟨_, spells⟩ fun kind tail _ spelled => ?_⟩
      rcases symbol_or_nil_of_spells starts spelled with ⟨other, otherSymbol⟩ | rfl
      · rw [← otherSymbol]
        exact length_symbol_le other
      · exact Nat.le_succ 1
    · next missed =>
      refine nextLexeme_readSingle starts goesOn solid fun op other front symbol => ?_
      obtain ⟨rfl, -⟩ := List.cons_prefix_cons.mp front
      rw [Operator.lookup_eq_some_iff.mpr symbol] at missed
      cases missed

end Operators

/-- A character of no other class is a delimiter alone. -/
theorem nextLexeme_delimiter {c : Char} {rest : List Char} (goesOn : isEndOfInput c = false)
    (solid : isBlank c = false) (noNumber : Lexeme.startsNumber c rest = false)
    (noQuote : isQuote c = false) (noLetter : isIdentStart c = false)
    (noOperator : isOperatorStart c = false) :
    NextLexeme (c :: rest) (.delimiter c) [c] rest := by
  have noSymbol : ∀ (op : Operator) (tail : List Char), op.symbol ≠ c :: tail := by
    intro op tail symbol
    simp [isOperatorStart_of_symbol symbol] at noOperator
  have noDigit : isDigit c = false := by
    unfold Lexeme.startsNumber at noNumber
    exact (Bool.or_eq_false_iff.mp noNumber).1
  have spells : Spells (.delimiter c) [c] :=
    .delimiter solid goesOn noDigit noQuote noLetter fun op _ => noSymbol op []
  refine ⟨rfl, spells, longest_of_bound ⟨rest, rfl⟩ ⟨_, spells⟩ fun kind tail front spelled => ?_⟩
  have notNumber : ¬ Number (c :: tail) := by
    intro number
    have starts := number.startsNumber (List.cons_prefix_cons.mpr ⟨rfl, front⟩)
    simp [noNumber] at starts
  rcases spelled.of_other notNumber noQuote noLetter with ⟨op, symbol, -⟩ | ⟨rfl, -⟩
  · exact absurd symbol (noSymbol op tail)
  · rfl

/-! ### What is read -/

/-- A number is read as its longest spelling, unless a point or an exponent follows it. -/
theorem readNumber_ok {chars : List Char} {lexeme : Lexeme}
    (done : Lexeme.readNumber chars = .ok lexeme) :
    lexeme.kind = .numberLiteral (String.ofList (numberSpelling chars).1)
      ∧ lexeme.spelling = (numberSpelling chars).1 := by
  refine ⟨?_, Lexeme.readNumber_spelling done⟩
  unfold Lexeme.readNumber at done
  revert done
  generalize numberSpelling chars = parts
  obtain ⟨spelling, rest⟩ := parts
  intro done
  cases rest with
  | nil =>
    obtain rfl := Except.ok.inj done
    rfl
  | cons c after =>
    simp only at done
    split at done
    · cases done
    split at done
    · cases done
    obtain rfl := Except.ok.inj done
    rfl

/-- **What is read at the front of a text is its next lexeme.** -/
theorem nextLexeme_of_read {c : Char} {rest : List Char} {lexeme : Lexeme}
    (goesOn : isEndOfInput c = false) (solid : isBlank c = false)
    (done : Lexeme.read c rest = .ok lexeme) :
    NextLexeme (c :: rest) lexeme.kind lexeme.spelling lexeme.rest := by
  have whole := Lexeme.spelling_append_rest done
  -- one branch of `read` for each class of first characters
  rw [Lexeme.read, if_neg (by simp [goesOn])] at done
  split at done
  · next starts =>
    obtain ⟨kind, spelling⟩ := readNumber_ok done
    have longest := longest_numberSpelling starts
    rw [← spelling] at kind longest
    rw [kind]
    exact ⟨whole, .number longest.holds, longest_of_startsNumber starts longest⟩
  next noNumber =>
  split at done
  · next quotes =>
    have plain := not_mem_takeWhile_ne c rest
    unfold Lexeme.readString at done
    split at done
    · cases done
    · next closing after found =>
      have same : closing = c := by
        have stop := List.head?_dropWhile_not (· != c) rest
        rw [found] at stop
        simpa using stop
      subst same
      obtain rfl := Except.ok.inj done
      have cut : rest = rest.takeWhile (· != closing) ++ closing :: after := by
        rw [← found, List.takeWhile_append_dropWhile]
      have longest := longest_of_quote quotes plain after
      rw [← cut] at longest
      exact ⟨whole, .string quotes plain, longest⟩
  next noQuote =>
  split at done
  · next starts =>
    rw [Lexeme.readIdentifier, if_pos starts] at done
    obtain rfl := Except.ok.inj done
    exact ⟨whole, .identifier starts fun d member => List.mem_takeWhile_imp member,
      longest_of_identStart starts rest⟩
  next noLetter =>
  rw [Bool.not_eq_true] at noNumber noQuote noLetter
  split at done
  · next starts =>
    obtain rfl := Except.ok.inj done
    exact nextLexeme_readOperator starts goesOn solid rest
  · next noOperator =>
    rw [Bool.not_eq_true] at noOperator
    obtain rfl := Except.ok.inj done
    exact nextLexeme_delimiter goesOn solid noNumber noQuote noLetter noOperator

end ExprLexer
