import ExprLexer.Proofs.Lexing

/-!
Breaks separate: what stands behind a blank, or behind a character that ends the input, does not change
the token before it.

* `CharClass.isIdentContinue_of_blank`: no blank continues an identifier;
* `CharClass.isBreak`: blanks, and the characters that end the input;
* `Grammar.Spells.quoted_of_break`: **a lexeme that holds a break is a string**;
* `Grammar.Sealed`: a text that ends in a break, or has one behind it;
* `Grammar.Reads`: the lexeme that a text begins with, where it is not faulty;
* `Grammar.Reads.of_spells`: a spelling alone is read whole;
* `Grammar.Reads.append`: **what follows a sealed text changes neither the next lexeme nor that there
  is one**;
* `Lexing.of_blanks`, `Lexing.reads`: the two steps that build a lexing from its front.

The longest lexeme at the front of a text can only grow with the text if it grows over the break.
Strings hold breaks, but a string ends at its closing quote, which comes before.
-/

namespace ExprLexer

/-! ### Breaks belong to no other class -/

namespace CharClass

/-- No blank continues an identifier. -/
theorem isIdentContinue_of_blank {c : Char} (blank : isBlank c = true) :
    isIdentContinue c = false := by
  have noLetter : isLetter c = false :=
    Unicode.CodeRanges.contains_eq_false_of_apart
      (show Unicode.CodeRanges.Apart Unicode.whiteSpace Unicode.alphabetic by decide +kernel) blank
  have noNumber : Unicode.numeric.contains c = false :=
    Unicode.CodeRanges.contains_eq_false_of_apart
      (show Unicode.CodeRanges.Apart Unicode.whiteSpace Unicode.numeric by decide +kernel) blank
  have noUnderscore : (c == '_') = false := by
    rw [beq_eq_false_iff_ne]
    rintro rfl
    exact absurd blank (by decide)
  rw [isIdentContinue, isLetterOrNumber, noLetter, noNumber, noUnderscore]
  rfl

/-- A character that ends the input belongs to no other class. -/
theorem apart_of_endOfInput {c : Char} (ends : isEndOfInput c = true) :
    isBlank c = false ∧ isIdentContinue c = false := by
  unfold isEndOfInput at ends
  rw [Bool.or_eq_true, beq_iff_eq, beq_iff_eq] at ends
  rcases ends with rfl | rfl
  · exact ⟨by decide, by decide⟩
  · exact ⟨by decide, by decide⟩

/-- The characters that no lexeme but a string holds: blanks, and those that end the input. -/
def isBreak (c : Char) : Bool := isBlank c || isEndOfInput c

theorem isBreak_of_blank {b : Char} (blank : isBlank b = true) : isBreak b = true := by
  rw [isBreak, blank, Bool.true_or]

theorem isBreak_of_endOfInput {b : Char} (ends : isEndOfInput b = true) : isBreak b = true := by
  rw [isBreak, ends, Bool.or_true]

theorem isBreak_of_identContinue {c : Char} (continues : isIdentContinue c = true) :
    isBreak c = false := by
  rw [isBreak, Bool.or_eq_false_iff]
  constructor
  · cases blank : isBlank c with
    | false => rfl
    | true => simp [isIdentContinue_of_blank blank] at continues
  · cases ends : isEndOfInput c with
    | false => rfl
    | true => simp [(apart_of_endOfInput ends).2] at continues

theorem isBreak_of_digit {c : Char} (digit : isDigit c = true) : isBreak c = false := by
  unfold isDigit at digit
  rw [Bool.and_eq_true, decide_eq_true_eq, decide_eq_true_eq] at digit
  have lower : 48 ≤ c.toNat := digit.1
  have upper : c.toNat ≤ 57 := digit.2
  refine isBreak_of_identContinue ?_
  have number : Unicode.numeric.contains c = true := by
    unfold Unicode.CodeRanges.contains Unicode.numeric
    rw [Unicode.CodeRanges.containsCode, if_neg (by omega), Bool.or_eq_true, decide_eq_true_eq]
    exact Or.inl upper
  rw [isIdentContinue, isLetterOrNumber, number, Bool.or_true, Bool.or_true]

theorem isBreak_of_exponentMarker {c : Char} (marks : isExponentMarker c = true) :
    isBreak c = false := by
  unfold isExponentMarker at marks
  rw [Bool.or_eq_true, beq_iff_eq, beq_iff_eq] at marks
  rcases marks with rfl | rfl
  · decide
  · decide

theorem isBreak_of_sign {c : Char} (signs : isSign c = true) : isBreak c = false := by
  unfold isSign at signs
  rw [Bool.or_eq_true, beq_iff_eq, beq_iff_eq] at signs
  rcases signs with rfl | rfl
  · decide
  · decide

theorem isBreak_of_quote {c : Char} (quotes : isQuote c = true) : isBreak c = false := by
  unfold isQuote at quotes
  rw [Bool.or_eq_true, beq_iff_eq, beq_iff_eq] at quotes
  rcases quotes with rfl | rfl
  · decide
  · decide

end CharClass

namespace Grammar

open CharClass

/-! ### Lexemes without breaks -/

/-- Characters none of which is a break. -/
def Solid (chars : List Char) : Prop := ∀ c ∈ chars, isBreak c = false

theorem solid_cons {c : Char} {chars : List Char} :
    Solid (c :: chars) ↔ isBreak c = false ∧ Solid chars := List.forall_mem_cons

theorem solid_append {front back : List Char} :
    Solid (front ++ back) ↔ Solid front ∧ Solid back := List.forall_mem_append

theorem Digits.solid {digits : List Char} (all : Digits digits) : Solid digits :=
  fun c member => isBreak_of_digit (all c member)

theorem Mantissa.solid {mantissa : List Char} (front : Mantissa mantissa) : Solid mantissa := by
  have point : isBreak '.' = false := by decide
  cases front with
  | whole some all => exact all.solid
  | pointed some all behind =>
    exact solid_append.mpr ⟨all.solid, solid_cons.mpr ⟨point, behind.solid⟩⟩
  | point some behind => exact solid_cons.mpr ⟨point, behind.solid⟩

theorem Exponent.solid {exponent : List Char} (back : Exponent exponent) : Solid exponent := by
  cases back with
  | plain marks all => exact solid_cons.mpr ⟨isBreak_of_exponentMarker marks, all.solid⟩
  | signed marks signs all =>
    exact solid_cons.mpr ⟨isBreak_of_exponentMarker marks,
      solid_cons.mpr ⟨isBreak_of_sign signs, all.solid⟩⟩

theorem Number.solid {number : List Char} (spelled : Number number) : Solid number := by
  cases spelled with
  | plain front => exact front.solid
  | scaled front back => exact solid_append.mpr ⟨front.solid, back.solid⟩

theorem solid_symbol (op : Operator) : Solid op.symbol := by
  have each : op.symbol.all (fun c => !isBreak c) = true := by cases op <;> decide
  intro c member
  exact (Bool.not_eq_true' _).mp (List.all_eq_true.mp each c member)

/-- **A lexeme that holds a break is a string.** -/
theorem Spells.quoted_of_break {kind : TokenKind} {chars : List Char} {b : Char}
    (spelled : Spells kind chars) (member : b ∈ chars) (breaks : isBreak b = true) :
    ∃ quote content, isQuote quote = true ∧ quote ∉ content
      ∧ chars = quote :: (content ++ [quote]) := by
  have broken : ¬ Solid chars := fun solid => by simp [solid b member] at breaks
  cases spelled with
  | identifier starts continues =>
    refine absurd (solid_cons.mpr ⟨?_, fun c inside => ?_⟩) broken
    · exact isBreak_of_identContinue (isIdentContinue_of_isIdentStart starts)
    · exact isBreak_of_identContinue (continues c inside)
  | number number => exact absurd number.solid broken
  | string quotes plain => exact ⟨_, _, quotes, plain, rfl⟩
  | operator known symbol => exact absurd (symbol ▸ solid_symbol _) broken
  | delimiter solid goesOn noDigit noQuote noLetter noOperator =>
    have single : isBreak _ = false := Bool.or_eq_false_iff.mpr ⟨solid, goesOn⟩
    exact absurd (solid_cons.mpr ⟨single, List.forall_mem_nil _⟩) broken

/-- No lexeme begins with a blank or with a character that ends the input. -/
theorem Spells.starts {kind : TokenKind} {c : Char} {tail : List Char}
    (spelled : Spells kind (c :: tail)) : isBlank c = false ∧ isEndOfInput c = false := by
  rw [← Bool.or_eq_false_iff]
  cases breaks : isBreak c with
  | false => exact breaks
  | true =>
    obtain ⟨quote, content, quotes, -, same⟩ := spelled.quoted_of_break List.mem_cons_self breaks
    obtain ⟨rfl, -⟩ := List.cons.inj same
    simp [isBreak_of_quote quotes] at breaks

/-- No lexeme ends in a break. -/
theorem Spells.ends {kind : TokenKind} {chars : List Char} {b : Char} (spelled : Spells kind chars)
    (last : chars.getLast? = some b) : isBreak b = false := by
  cases breaks : isBreak b with
  | false => rfl
  | true =>
    obtain ⟨quote, content, quotes, -, rfl⟩ :=
      spelled.quoted_of_break (List.mem_of_getLast? last) breaks
    rw [← List.cons_append, List.getLast?_concat] at last
    obtain rfl := Option.some.inj last
    simp [isBreak_of_quote quotes] at breaks

/-! ### What follows a break -/

/-- A front without breaks ends before the first break. -/
theorem prefix_of_solid {front chars more : List Char} {b : Char}
    (isFront : front <+: chars ++ b :: more) (solid : Solid front) (breaks : isBreak b = true) :
    front <+: chars := by
  rcases Nat.lt_or_ge chars.length front.length with long | short
  · have overIt : chars ++ [b] <+: front := by
      refine List.prefix_of_prefix_length_le ⟨more, by simp⟩ isFront ?_
      rw [List.length_append]
      exact long
    have inside : b ∈ front := overIt.subset (by simp)
    simp [solid b inside] at breaks
  · exact List.prefix_of_prefix_length_le isFront (List.prefix_append _ _) short

/-- A text behind which no front without breaks can grow. -/
def Sealed (chars more : List Char) : Prop :=
  ∀ front, front <+: chars ++ more → Solid front → front <+: chars

/-- What begins with a break seals the text before it. -/
theorem sealed_of_head {b : Char} (breaks : isBreak b = true) (chars more : List Char) :
    Sealed chars (b :: more) :=
  fun _ isFront solid => prefix_of_solid isFront solid breaks

/-- A break at its end seals a text. -/
theorem sealed_of_last {chars : List Char} {b : Char} (last : chars.getLast? = some b)
    (breaks : isBreak b = true) (more : List Char) : Sealed chars more := by
  obtain ⟨before, rfl⟩ := List.getLast?_eq_some_iff.mp last
  intro front isFront solid
  rw [List.append_assoc] at isFront
  exact (prefix_of_solid isFront solid breaks).trans (List.prefix_append _ _)

/-- The longest front of a text is the longest of what it begins with, if it lies within. -/
theorem Longest.of_append {property : List Char → Prop} {chars more front : List Char}
    (longest : Longest property (chars ++ more) front) (within : front <+: chars) :
    Longest property chars front where
  isFront := within
  holds := longest.holds
  longest other isFront := longest.longest other (isFront.trans (List.prefix_append _ _))

/-- A text begins with a lexeme and is not faulty there. -/
structure Reads (chars : List Char) (kind : TokenKind) (spelling rest : List Char) : Prop where
  lexeme : NextLexeme chars kind spelling rest
  sound : ∀ cause shown, ¬ Faulty chars cause shown

/-- A number that goes on as a lexeme is not the longest. -/
theorem not_longest_of_spells {kind : TokenKind} {number rest : List Char} {d : Char}
    (spelled : Spells kind (number ++ d :: rest)) :
    ¬ Longest Number (number ++ d :: rest) number := by
  intro longest
  have whole : Number (number ++ d :: rest) := by
    obtain ⟨c, tail, rfl, starts⟩ := longest.holds.head
    rcases starts with digit | ⟨rfl, -⟩
    · exact (spelled.of_digit digit).1
    · rcases spelled.of_point with ⟨isNumber, -⟩ | ⟨none, -⟩
      · exact isNumber
      · simp at none
  have short := longest.longest _ List.prefix_rfl whole
  rw [List.length_append, List.length_cons] at short
  omega

namespace Reads

variable {chars spelling rest : List Char} {kind : TokenKind}

/-- A spelling alone is read whole. -/
theorem of_spells (spelled : Spells kind spelling) : Reads spelling kind spelling [] where
  lexeme := ⟨List.append_nil _, spelled, List.prefix_rfl, ⟨kind, spelled⟩,
    fun _ isFront _ => isFront.length_le⟩
  sound cause shown faulty := by
    cases faulty with
    | unterminated quotes never =>
      obtain ⟨content, -, rfl, -⟩ := spelled.of_quote quotes
      exact never (by simp)
    | point longest => exact not_longest_of_spells spelled longest
    | marker marks longest => exact not_longest_of_spells spelled longest

theorem nextLexeme_append {more : List Char} (lexeme : NextLexeme chars kind spelling rest)
    (closed : Sealed chars more) : NextLexeme (chars ++ more) kind spelling (rest ++ more) := by
  have whole : spelling ++ (rest ++ more) = chars ++ more := by
    rw [← List.append_assoc, lexeme.whole]
  refine ⟨whole, lexeme.spells, ?_⟩
  obtain ⟨c, tail, rfl⟩ := List.exists_cons_of_ne_nil lexeme.spells.ne_nil
  cases quotes : isQuote c with
  | true =>
    obtain ⟨content, plain, rfl, -⟩ := lexeme.spells.of_quote quotes
    rw [← whole]
    simpa using longest_of_quote quotes plain (rest ++ more)
  | false =>
    refine ⟨⟨_, whole⟩, ⟨kind, lexeme.spells⟩, fun other isFront ⟨otherKind, spelled⟩ => ?_⟩
    -- the other lexeme begins with the same character, so that it is no string
    have solid : Solid other := by
      intro d inside
      cases breaks : isBreak d with
      | false => rfl
      | true =>
        obtain ⟨quote, content, quoted, -, rfl⟩ := spelled.quoted_of_break inside breaks
        rw [← whole, List.cons_append] at isFront
        obtain ⟨rfl, -⟩ := List.cons_prefix_cons.mp isFront
        simp [quotes] at quoted
    exact lexeme.longest.longest other (closed other isFront solid) ⟨otherKind, spelled⟩

theorem not_faulty_append {more : List Char} (reads : Reads chars kind spelling rest)
    (closed : Sealed chars more) (cause : LexError.Cause) (shown : List Char) :
    ¬ Faulty (chars ++ more) cause shown := by
  intro faulty
  -- a number and the character that shows its fault lie before the break
  have within : ∀ number d rest, number ++ d :: rest = chars ++ more →
      Longest Number (number ++ d :: rest) number → isBreak d = false →
      ∃ behind, chars = number ++ d :: behind ∧ Longest Number chars number := by
    intro number d after same longest solid
    have isFront : number ++ [d] <+: chars ++ more := ⟨after, by simp [← same]⟩
    have fault : Solid (number ++ [d]) :=
      solid_append.mpr ⟨longest.holds.solid, List.forall_mem_singleton.mpr solid⟩
    obtain ⟨behind, cut⟩ := closed _ isFront fault
    rw [same] at longest
    refine ⟨behind, by simp [← cut], longest.of_append ?_⟩
    exact ⟨d :: behind, by simp [← cut]⟩
  generalize text : chars ++ more = whole at faulty
  cases faulty with
  | @unterminated quote content quotes never =>
    obtain ⟨c, tail, same⟩ := List.exists_cons_of_ne_nil reads.lexeme.spells.ne_nil
    have spelled := reads.lexeme.spells
    have cut := reads.lexeme.whole
    rw [same] at spelled cut
    rw [← cut] at text
    obtain ⟨rfl, rfl⟩ := List.cons.inj text
    obtain ⟨inner, -, rfl, -⟩ := spelled.of_quote quotes
    exact never (by simp)
  | @point number after longest =>
    obtain ⟨behind, rfl, longest⟩ := within number '.' after text.symm longest (by decide)
    exact reads.sound _ _ (.point longest)
  | @marker number after d marks longest =>
    obtain ⟨behind, rfl, longest⟩ :=
      within number d after text.symm longest (isBreak_of_exponentMarker marks)
    exact reads.sound _ _ (.marker marks longest)

/-- **What follows a sealed text changes neither the next lexeme nor that there is one.** -/
theorem append {more : List Char} (reads : Reads chars kind spelling rest)
    (closed : Sealed chars more) : Reads (chars ++ more) kind spelling (rest ++ more) where
  lexeme := nextLexeme_append reads.lexeme closed
  sound := reads.not_faulty_append closed

/-- What follows a blank changes neither the next lexeme nor that there is one. -/
theorem append_blank (reads : Reads chars kind spelling rest) {b : Char} (blank : isBlank b = true)
    (more : List Char) : Reads (chars ++ b :: more) kind spelling (rest ++ b :: more) :=
  reads.append (sealed_of_head (isBreak_of_blank blank) chars more)

end Reads

end Grammar

/-! ### Lexings from their front -/

open CharClass Grammar

theorem Grammar.Skips.append {chars blanks front solid : List Char} (skips : Skips chars blanks solid)
    (blank : ∀ c ∈ front, isBlank c = true) : Skips (front ++ chars) (front ++ blanks) solid where
  whole := by rw [List.append_assoc, skips.whole]
  blank := List.forall_mem_append.mpr ⟨blank, skips.blank⟩
  maximal := skips.maximal

/-- Blanks in front of a text change nothing but what was read before it. -/
theorem Lexing.of_blanks {read blanks chars : List Char} {outcome : Except LexError (List Token)}
    (blank : ∀ c ∈ blanks, isBlank c = true) (lexing : Lexing (read ++ blanks) chars outcome) :
    Lexing read (blanks ++ chars) outcome := by
  cases lexing with
  | exhausted skips =>
    rw [List.append_assoc]
    exact .exhausted (skips.append blank)
  | sentinel skips ends =>
    rw [List.append_assoc read]
    exact .sentinel (skips.append blank) ends
  | token skips goesOn lexeme sound later =>
    rw [List.append_assoc read] at later ⊢
    exact .token (skips.append blank) goesOn lexeme sound later
  | fault skips faulty =>
    rw [List.append_assoc read]
    exact .fault (skips.append blank) faulty

/-- A text that begins with a lexeme goes on behind it. -/
theorem Lexing.reads {read chars spelling rest : List Char} {kind : TokenKind}
    {outcome : Except LexError (List Token)} (reads : Reads chars kind spelling rest)
    (later : Lexing (read ++ spelling) rest outcome) :
    Lexing read chars (outcome.map (⟨kind, Pos.after (read ++ spelling)⟩ :: ·)) := by
  obtain ⟨c, tail, rfl⟩ := List.exists_cons_of_ne_nil reads.lexeme.spells.ne_nil
  obtain ⟨solid, goesOn⟩ := reads.lexeme.spells.starts
  have cut := reads.lexeme.whole
  obtain rfl : chars = c :: (tail ++ rest) := cut.symm
  have skips : Skips (c :: (tail ++ rest)) [] (c :: (tail ++ rest)) := by
    refine ⟨rfl, List.forall_mem_nil _, fun d first => ?_⟩
    obtain rfl := Option.some.inj first
    exact solid
  have built := @Lexing.token read _ [] _ _ rest c kind outcome skips goesOn reads.lexeme reads.sound
  rw [List.append_nil] at built
  exact built later

end ExprLexer
