import ExprLexer.Proofs.Separation

/-!
Writing tokens and reading them back.

* `TokenKind.WellFormed`: the kinds that a text can have, the end of the input apart;
* `TokenKind.WrittenAs`: how a kind is written, a string in either quote that it lacks;
* `Grammar.spells_iff`: **the spellings of the grammar are those of the well-formed kinds**;
* `Written`: a kind as it stands in a text, with the blanks behind it;
* `Written.lexing_text`: kinds that blanks keep apart are read back;
* `wellFormed_of_lexing`: what is read is well formed;
* `tokenize_written`: **reading inverts writing, and every text that can be read could be written**.

Without blanks the kinds would run into each other: `1e` and `+` into one number, a point and a
digit into another, two ampersands into an operator.
-/

namespace ExprLexer

open CharClass Grammar

/-! ### Well-formed kinds -/

/-- The kinds that a text can have, the end of the input apart. -/
def TokenKind.WellFormed : TokenKind → Prop
  | .endOfInput _ => False
  | .identifier text =>
    (∃ first ∈ text.toList.head?, isIdentStart first = true)
      ∧ ∀ c ∈ text.toList, isIdentContinue c = true
  | .numberLiteral text => Number text.toList
  | .stringLiteral text => ∃ quote, isQuote quote = true ∧ quote ∉ text.toList
  | .operator op => op ∈ Operator.all
  | .delimiter c =>
    isBlank c = false ∧ isEndOfInput c = false ∧ isDigit c = false ∧ isQuote c = false
      ∧ isIdentStart c = false ∧ (c = '&' ∨ c = '|' ∨ isOperatorStart c = false)

/-- How a kind is written: as its spelling, but a string in either quote that it lacks. -/
def TokenKind.WrittenAs (kind : TokenKind) (chars : List Char) : Prop :=
  match kind with
  | .stringLiteral text =>
    ∃ quote, isQuote quote = true ∧ quote ∉ text.toList
      ∧ chars = quote :: (text.toList ++ [quote])
  | _ => chars = kind.spelling

/-- A well-formed kind can be written as its spelling. -/
theorem TokenKind.writtenAs_spelling {kind : TokenKind} (wellFormed : kind.WellFormed) :
    kind.WrittenAs kind.spelling := by
  cases kind with
  | stringLiteral text =>
    have lacks : isQuote (quoteFor text) = true ∧ quoteFor text ∉ text.toList := by
      unfold quoteFor
      split
      · next double =>
        refine ⟨by decide, fun single => ?_⟩
        -- both quotes are in the text, but one is missing
        obtain ⟨quote, quotes, absent⟩ := wellFormed
        unfold isQuote at quotes
        rw [Bool.or_eq_true, beq_iff_eq, beq_iff_eq] at quotes
        rcases quotes with rfl | rfl
        · exact absent single
        · exact absent (List.contains_iff_mem.mp double)
      · next noDouble => exact ⟨by decide, fun double => noDouble (List.contains_iff_mem.mpr double)⟩
    exact ⟨quoteFor text, lacks.1, lacks.2, rfl⟩
  | _ => exact rfl

/-- Two characters that begin operators spell none alone. -/
theorem symbol_ne_singleton_iff {c : Char} :
    (∀ op ∈ Operator.all, op.symbol ≠ [c]) ↔ c = '&' ∨ c = '|' ∨ isOperatorStart c = false := by
  constructor
  · intro none
    cases starts : isOperatorStart c with
    | false => exact Or.inr (Or.inr rfl)
    | true =>
      have each : ['+', '-', '*', '/', '^', '!', '&', '|', '=', '>', '<'].all (fun d =>
          d == '&' || d == '|' || Operator.all.any fun op => op.symbol == [d]) = true := by decide
      have single := List.all_eq_true.mp each c (List.contains_iff_mem.mp starts)
      rw [Bool.or_eq_true, Bool.or_eq_true, beq_iff_eq, beq_iff_eq, List.any_eq_true] at single
      rcases single with (rfl | rfl) | ⟨op, known, symbol⟩
      · exact Or.inl rfl
      · exact Or.inr (Or.inl rfl)
      · exact absurd (beq_iff_eq.mp symbol) (none op known)
  · rintro (rfl | rfl | noOperator) op known symbol
    · exact absurd symbol ((by decide : ∀ op ∈ Operator.all, op.symbol ≠ ['&']) op known)
    · exact absurd symbol ((by decide : ∀ op ∈ Operator.all, op.symbol ≠ ['|']) op known)
    · simp [isOperatorStart_of_symbol symbol] at noOperator

/-- **The spellings of the grammar are those of the well-formed kinds.** -/
theorem Grammar.spells_iff {kind : TokenKind} {chars : List Char} :
    Spells kind chars ↔ kind.WellFormed ∧ kind.WrittenAs chars := by
  constructor
  · intro spelled
    cases spelled with
    | @identifier first more starts continues =>
      refine ⟨⟨⟨first, by simp, starts⟩, ?_⟩, String.toList_ofList.symm⟩
      rw [String.toList_ofList]
      exact List.forall_mem_cons.mpr ⟨isIdentContinue_of_isIdentStart starts, continues⟩
    | number number =>
      refine ⟨?_, String.toList_ofList.symm⟩
      rw [TokenKind.WellFormed, String.toList_ofList]
      exact number
    | @string quote content quotes plain =>
      have absent : quote ∉ (String.ofList content).toList := by rwa [String.toList_ofList]
      exact ⟨⟨quote, quotes, absent⟩, quote, quotes, absent, by rw [String.toList_ofList]⟩
    | operator known symbol => exact ⟨known, symbol.symm⟩
    | delimiter solid goesOn noDigit noQuote noLetter noOperator =>
      exact ⟨⟨solid, goesOn, noDigit, noQuote, noLetter, symbol_ne_singleton_iff.mp noOperator⟩, rfl⟩
  · rintro ⟨wellFormed, written⟩
    cases kind with
    | endOfInput c => exact wellFormed.elim
    | identifier text =>
      obtain rfl : chars = text.toList := written
      obtain ⟨⟨first, head, starts⟩, continues⟩ := wellFormed
      obtain ⟨more, same⟩ := List.head?_eq_some_iff.mp head
      have spelled : Spells (.identifier (String.ofList (first :: more))) (first :: more) :=
        .identifier starts fun c member => continues c (by simp [same, member])
      rwa [← same, String.ofList_toList] at spelled
    | numberLiteral text =>
      obtain rfl : chars = text.toList := written
      have spelled := Spells.number wellFormed
      rwa [String.ofList_toList] at spelled
    | stringLiteral text =>
      obtain ⟨quote, quotes, absent, rfl⟩ := written
      have spelled := Spells.string quotes absent
      rwa [String.ofList_toList] at spelled
    | operator op => exact .operator wellFormed written.symm
    | delimiter c =>
      obtain ⟨solid, goesOn, noDigit, noQuote, noLetter, noOperator⟩ := wellFormed
      obtain rfl : chars = [c] := written
      exact .delimiter solid goesOn noDigit noQuote noLetter
        (symbol_ne_singleton_iff.mpr noOperator)

/-! ### Written texts -/

/-- A kind as it stands in a text, with the blanks behind it. -/
structure Written where
  kind : TokenKind
  spelling : List Char
  gap : List Char
  wellFormed : kind.WellFormed
  written : kind.WrittenAs spelling
  blank : ∀ c ∈ gap, isBlank c = true

namespace Written

/-- The characters of one kind and the blanks behind it. -/
def chars (item : Written) : List Char := item.spelling ++ item.gap

/-- The characters of some kinds, one after the other. -/
def text (items : List Written) : List Char := items.flatMap chars

/-- The tokens of some kinds, with the characters `read` before them.  Each stands where its spelling
ends. -/
def tokens (read : List Char) : List Written → List Token
  | [] => []
  | item :: items => ⟨item.kind, Pos.after (read ++ item.spelling)⟩ :: tokens (read ++ item.chars) items

/-- A kind is read whole before a blank, and at the end of the text. -/
theorem reads (item : Written) {rest : List Char} (apart : item.gap = [] → rest = []) :
    Reads (item.chars ++ rest) item.kind item.spelling (item.gap ++ rest) := by
  have alone : Reads item.spelling item.kind item.spelling [] :=
    .of_spells (spells_iff.mpr ⟨item.wellFormed, item.written⟩)
  have blank := item.blank
  rw [chars]
  generalize item.gap = gap at apart blank ⊢
  cases gap with
  | nil =>
    rw [apart rfl, List.append_nil, List.append_nil]
    exact alone
  | cons b gap =>
    rw [List.append_assoc]
    exact alone.append_blank (blank b List.mem_cons_self) (gap ++ rest)

/-- Kinds that blanks keep apart are read back. -/
theorem lexing_text (read : List Char) {items : List Written}
    (apart : ∀ item ∈ items.dropLast, item.gap ≠ []) :
    Lexing read (text items)
      (.ok (tokens read items ++ [⟨.endOfInput endOfText, Pos.after (read ++ text items)⟩])) := by
  induction items generalizing read with
  | nil => exact .exhausted ⟨rfl, List.forall_mem_nil _, fun c first => by cases first⟩
  | cons item items ih =>
    have last : item.gap = [] → text items = [] := by
      intro none
      cases items with
      | nil => rfl
      | cons next items => exact absurd none (apart item List.mem_cons_self)
    have apartLater : ∀ next ∈ items.dropLast, next.gap ≠ [] := by
      cases items with
      | nil => exact List.forall_mem_nil _
      | cons next items => exact fun other member => apart other (List.mem_cons_of_mem _ member)
    have later : Lexing (read ++ item.spelling ++ item.gap) (text items) (.ok (tokens
        (read ++ item.chars) items
          ++ [⟨.endOfInput endOfText, Pos.after (read ++ (item.chars ++ text items))⟩])) := by
      rw [← List.append_assoc read item.chars, List.append_assoc read item.spelling]
      exact ih (read ++ item.chars) apartLater
    exact .reads (item.reads last) (.of_blanks item.blank later)

end Written

/-- What is read is well formed. -/
theorem wellFormed_of_lexing {read chars : List Char} {outcome : Except LexError (List Token)}
    (lexing : Lexing read chars outcome) :
    ∀ tokens, outcome = .ok tokens → ∃ earlier final, tokens = earlier ++ [final]
      ∧ final.isEnd = true ∧ ∀ token ∈ earlier, token.kind.WellFormed := by
  induction lexing with
  | exhausted skips =>
    intro tokens done
    obtain rfl := Except.ok.inj done
    exact ⟨[], _, rfl, rfl, List.forall_mem_nil _⟩
  | sentinel skips ends =>
    intro tokens done
    obtain rfl := Except.ok.inj done
    exact ⟨[], _, rfl, rfl, List.forall_mem_nil _⟩
  | @token _ _ _ _ _ _ _ _ outcome skips goesOn lexeme sound later ih =>
    intro tokens done
    cases outcome with
    | error error => cases done
    | ok others =>
      obtain rfl := Except.ok.inj done
      obtain ⟨earlier, final, rfl, ends, each⟩ := ih others rfl
      have first := (spells_iff.mp lexeme.spells).1
      exact ⟨_ :: earlier, final, rfl, ends, List.forall_mem_cons.mpr ⟨first, each⟩⟩
  | fault skips faulty =>
    intro tokens done
    cases done

/-- **Reading inverts writing.**  Each well-formed kind can be written.  Kinds written with blanks
between them, and any blanks around, are read back, each where its spelling ends, and then the text
ends.  What is read of any text is well formed up to the end of the input. -/
theorem tokenize_written :
    (∀ kind : TokenKind, kind.WellFormed → kind.WrittenAs kind.spelling)
    ∧ (∀ (lead : List Char) (items : List Written), (∀ c ∈ lead, isBlank c = true) →
        (∀ item ∈ items.dropLast, item.gap ≠ []) →
        tokenize (String.ofList (lead ++ Written.text items))
          = .ok (Written.tokens lead items
              ++ [⟨.endOfInput '\x00', Pos.after (lead ++ Written.text items)⟩]))
    ∧ ∀ source tokens, tokenize source = .ok tokens → ∃ earlier final, tokens = earlier ++ [final]
        ∧ final.isEnd = true ∧ ∀ token ∈ earlier, token.kind.WellFormed := by
  refine ⟨fun kind => TokenKind.writtenAs_spelling, fun lead items blank apart => ?_,
    fun source tokens => wellFormed_of_lexing (lexing_tokenize source) tokens⟩
  rw [← lexing_tokenize_iff, String.toList_ofList]
  exact .of_blanks blank (Written.lexing_text ([] ++ lead) apart)

/-- Kinds that would run into each other without the blanks. -/
theorem tokenize_written_ambiguous :
    tokenize "\t1e +\n. 5 & &  '\"'"
      = .ok [⟨.numberLiteral "1e", ⟨3, 1, 3⟩⟩, ⟨.operator .add, ⟨5, 1, 5⟩⟩,
          ⟨.delimiter '.', ⟨7, 2, 1⟩⟩, ⟨.numberLiteral "5", ⟨9, 2, 3⟩⟩,
          ⟨.delimiter '&', ⟨11, 2, 5⟩⟩, ⟨.delimiter '&', ⟨13, 2, 7⟩⟩,
          ⟨.stringLiteral "\"", ⟨18, 2, 12⟩⟩, ⟨.endOfInput '\x00', ⟨18, 2, 12⟩⟩] := by
  have one : Mantissa ['1'] := .whole (by decide) (List.forall_mem_singleton.mpr (by decide))
  have marker : Exponent ['e'] := .plain (by decide) (List.forall_mem_nil _)
  have half : TokenKind.WellFormed (.numberLiteral "1e") := Number.scaled one marker
  have five : TokenKind.WellFormed (.numberLiteral "5") :=
    Number.plain (.whole (by decide) (List.forall_mem_singleton.mpr (by decide)))
  have ampersand : TokenKind.WellFormed (.delimiter '&') :=
    ⟨by decide, by decide, by decide, by decide, by decide, Or.inl rfl⟩
  have point : TokenKind.WellFormed (.delimiter '.') :=
    ⟨by decide, by decide, by decide, by decide, by decide, Or.inr (Or.inr (by decide))⟩
  have quotable : TokenKind.WellFormed (.stringLiteral "\"") := ⟨'\'', by decide, by decide⟩
  have quoted : TokenKind.WrittenAs (.stringLiteral "\"") ['\'', '"', '\''] :=
    ⟨'\'', by decide, by decide, rfl⟩
  have blank : ∀ c ∈ [' '], isBlank c = true := List.forall_mem_singleton.mpr (by decide)
  have newline : ∀ c ∈ ['\n'], isBlank c = true := List.forall_mem_singleton.mpr (by decide)
  have blanks : ∀ c ∈ [' ', ' '], isBlank c = true := List.forall_mem_cons.mpr ⟨by decide, blank⟩
  refine Eq.trans (tokenize_written.2.1 ['\t']
    [⟨_, ['1', 'e'], [' '], half, rfl, blank⟩,
      ⟨.operator .add, ['+'], ['\n'], Operator.mem_all _, rfl, newline⟩,
      ⟨_, ['.'], [' '], point, rfl, blank⟩, ⟨_, ['5'], [' '], five, rfl, blank⟩,
      ⟨_, ['&'], [' '], ampersand, rfl, blank⟩, ⟨_, ['&'], [' ', ' '], ampersand, rfl, blanks⟩,
      ⟨_, ['\'', '"', '\''], [], quotable, quoted, List.forall_mem_nil _⟩]
    (List.forall_mem_singleton.mpr (by decide)) (by simp)) ?_
  rfl

end ExprLexer
