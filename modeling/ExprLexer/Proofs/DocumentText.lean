import ExprLexer.Proofs.Decimals
import ExprLexer.Proofs.NumberValues
import ExprLexer.Toml.Document

/-!
Documents of plain rows: each gives a value to a bare name.

* `Row`: such a row, whose spelling of the value is read as an item;
* `Row.ofText`, `Row.ofBoolean`, `Row.ofNatural`: rows with a text, a truth value and a whole number;
* `statements?_rows`: the rows are read one by one;
* `enterHeaders_pairs`: new names are entered in order;
* `parse?_rows`: **a document of plain rows with different names holds their items, in order**.
-/

namespace ExprLexer.Toml

/-- A row that gives a value to a bare name. -/
structure Row where
  name : List Char
  /-- The value as it is written. -/
  spelling : List Char
  item : Item
  named : name ≠ []
  bare : ∀ c ∈ name, isNameChar c = true
  solid : ∀ c ∈ spelling.head?, isBlank c = false
  reads : ∀ rest, value? (spelling ++ '\n' :: rest) = some (item, '\n' :: rest)

namespace Row

/-- The row as it is written. -/
def text (row : Row) : List Char := row.name ++ [' ', '=', ' '] ++ row.spelling ++ ['\n']

/-- The statement that the row makes. -/
def statement (row : Row) : Statement := .pair ⟨[], String.ofList row.name⟩ row.item

/-- The key that the row sets, with what stands under it. -/
def entry (row : Row) : String × Item := (String.ofList row.name, row.item)

end Row

/-! ### Reading a row -/

/-- The characters of names are none of those with a meaning of their own. -/
theorem apart_of_isNameChar {c : Char} (named : isNameChar c = true) :
    isBlank c = false ∧ c ≠ '\n' ∧ c ≠ '\r' ∧ c ≠ '#' ∧ c ≠ '[' ∧ c ≠ '"' ∧ c ≠ '\'' := by
  have apart {d : Char} (other : isNameChar d = false) : c ≠ d := by
    rintro rfl
    cases named.symm.trans other
  refine ⟨?_, apart rfl, apart rfl, apart rfl, apart rfl, apart rfl, apart rfl⟩
  have space : c ≠ ' ' := apart rfl
  have tab : c ≠ '\t' := apart rfl
  rw [isBlank, beq_eq_false_iff_ne.mpr space, beq_eq_false_iff_ne.mpr tab]
  rfl

theorem skipBlanks_of_solid {chars : List Char} (solid : ∀ c ∈ chars.head?, isBlank c = false) :
    skipBlanks chars = chars := by
  cases chars with
  | nil => rfl
  | cons c rest => exact List.dropWhile_cons_of_neg (by simp [solid c rfl])

theorem skipTrivia_of_isNameChar {c : Char} (named : isNameChar c = true) (rest : List Char) :
    skipTrivia false (c :: rest) = c :: rest := by
  obtain ⟨noBlank, noNewline, noReturn, noHash, -⟩ := apart_of_isNameChar named
  unfold skipTrivia
  split
  · next same => cases same
  · next same => exact absurd (List.cons.inj same).1 noNewline
  · next same => exact absurd (List.cons.inj same).1 noReturn
  · next same =>
    obtain ⟨rfl, rfl⟩ := List.cons.inj same
    rw [if_neg (by decide), if_neg (by simp [noBlank]), if_neg noHash]

/-- A bare name is read up to the blank behind it. -/
theorem keyName?_bare {name : List Char} (named : name ≠ [])
    (bare : ∀ c ∈ name, isNameChar c = true) (rest : List Char) :
    keyName? (name ++ ' ' :: rest) = some (String.ofList name, ' ' :: rest) := by
  have stop : isNameChar ' ' = false := by decide
  have taken : (name ++ ' ' :: rest).takeWhile isNameChar = name := by
    rw [List.takeWhile_append_of_pos bare, List.takeWhile_cons_of_neg (by simp [stop]),
      List.append_nil]
  have dropped : (name ++ ' ' :: rest).dropWhile isNameChar = ' ' :: rest := by
    rw [List.dropWhile_append_of_pos bare, List.dropWhile_cons_of_neg (by simp [stop])]
  cases name with
  | nil => exact absurd rfl named
  | cons c more =>
    obtain ⟨-, -, -, -, -, double, single⟩ := apart_of_isNameChar (bare c List.mem_cons_self)
    unfold keyName?
    split
    · next same => exact absurd (List.cons.inj same).1 double
    · next same => exact absurd (List.cons.inj same).1 single
    · rw [taken, dropped]

namespace Row

variable (row : Row) (rest : List Char)

theorem text_append :
    row.text ++ rest = row.name ++ ' ' :: '=' :: ' ' :: (row.spelling ++ '\n' :: rest) := by
  simp [text]

theorem keyEquals?_text :
    keyEquals? (row.text ++ rest)
      = some (⟨[], String.ofList row.name⟩, row.spelling ++ '\n' :: rest) := by
  have front : ∀ c ∈ (row.text ++ rest).head?, isBlank c = false := by
    rw [text_append]
    intro c first
    rw [List.head?_append_of_ne_nil _ row.named] at first
    exact (apart_of_isNameChar (row.bare c (List.mem_of_mem_head? first))).1
  have behind : ∀ c ∈ (row.spelling ++ '\n' :: rest).head?, isBlank c = false := by
    have solid := row.solid
    cases spelled : row.spelling with
    | nil =>
      rintro c first
      obtain rfl := Option.some.inj first
      decide
    | cons d more =>
      rw [spelled] at solid
      exact solid
  have names : keyNames? (row.text ++ rest)
      = some ([String.ofList row.name], '=' :: ' ' :: (row.spelling ++ '\n' :: rest)) := by
    rw [keyNames?, skipBlanks_of_solid front, text_append, keyName?_bare row.named row.bare]
    rfl
  have blank : skipBlanks (' ' :: (row.spelling ++ '\n' :: rest))
      = row.spelling ++ '\n' :: rest :=
    skipBlanks_of_solid behind
  rw [keyEquals?, keyPath?, names]
  show some (KeyPath.mk [] (String.ofList row.name), skipBlanks (' ' :: (row.spelling ++ '\n' :: rest))) = _
  rw [blank]

/-- A row begins with the first character of its name. -/
theorem exists_text_append :
    ∃ c more, row.text ++ rest = c :: more ∧ isNameChar c = true := by
  obtain ⟨c, more, spelled⟩ := List.exists_cons_of_ne_nil row.named
  refine ⟨c, more ++ ' ' :: '=' :: ' ' :: (row.spelling ++ '\n' :: rest), ?_,
    row.bare c (spelled ▸ List.mem_cons_self)⟩
  rw [text_append, spelled, List.cons_append]

theorem statement?_text : statement? (row.text ++ rest) = some (row.statement, rest) := by
  obtain ⟨c, more, begins, named⟩ := row.exists_text_append rest
  obtain ⟨-, -, -, -, noBracket, -⟩ := apart_of_isNameChar named
  unfold statement?
  split
  · next same =>
    rw [begins] at same
    exact absurd (List.cons.inj same).1 noBracket
  · next same =>
    rw [begins] at same
    exact absurd (List.cons.inj same).1 noBracket
  · rw [keyEquals?_text]
    dsimp only
    rw [row.reads]
    rfl

/-- **A row is read as its statement.** -/
theorem statements?_text :
    statements? (row.text ++ rest) = (statements? rest).map (row.statement :: ·) := by
  obtain ⟨c, more, begins, named⟩ := row.exists_text_append rest
  have trivia : skipTrivia false (row.text ++ rest) = row.text ++ rest := by
    rw [begins]
    exact skipTrivia_of_isNameChar named more
  have shorter : rest.length < (row.text ++ rest).length := by
    rw [List.length_append, text, List.length_append]
    simp
  rw [statements?, trivia]
  split
  · next none =>
    rw [begins] at none
    cases none
  · rw [row.statement?_text rest]
    exact dif_pos shorter

end Row

/-! ### Reading a document -/

/-- The rows of a document are read one by one. -/
theorem statements?_rows (rows : List Row) :
    statements? (rows.flatMap Row.text) = some (rows.map Row.statement) := by
  induction rows with
  | nil =>
    rw [List.flatMap_nil, statements?]
    rfl
  | cons row rows ih =>
    rw [List.flatMap_cons, row.statements?_text, ih]
    rfl

/-- A new bare name is entered last. -/
theorem putKey_bare {entries : Entries} {name : String} (new : name ∉ entries.map (·.1))
    (item : Item) : Item.putKey entries ⟨[], name⟩ item = some (entries ++ [(name, item)]) := by
  have missing : entries.lookup name = none := by
    rw [List.lookup_eq_none_iff]
    intro entry member
    rw [bne_iff_ne]
    rintro rfl
    exact new (List.mem_map_of_mem member)
  show (if decide (Origin.header = Origin.dotted) = true then none
    else if (entries.lookup name).isSome then none else some (entries ++ [(name, item)])) = _
  rw [missing]
  rfl

/-- New names are entered in order. -/
theorem enterHeaders_pairs (entries : Entries) (rows : List Row)
    (distinct : (entries.map (·.1) ++ (rows.map Row.entry).map (·.1)).Nodup) :
    enterHeaders entries (rows.map Row.statement) = some (entries ++ rows.map Row.entry) := by
  induction rows generalizing entries with
  | nil => rw [List.map_nil, enterHeaders, List.map_nil, List.append_nil]
  | cons row rows ih =>
    have new : row.entry.1 ∉ entries.map (·.1) := by
      intro member
      exact (List.nodup_append.mp distinct).2.2 _ member _ List.mem_cons_self rfl
    have entered : Item.putKey entries ⟨[], row.entry.1⟩ row.item = some (entries ++ [row.entry]) :=
      putKey_bare new row.item
    rw [List.map_cons, Row.statement, enterHeaders]
    show (Item.putKey entries ⟨[], row.entry.1⟩ row.item).bind _ = _
    rw [entered, Option.bind_some, ih (entries ++ [row.entry]) (by simpa using distinct)]
    simp

theorem dropByteOrderMark_rows (rows : List Row) :
    dropByteOrderMark (rows.flatMap Row.text) = rows.flatMap Row.text := by
  cases rows with
  | nil => rfl
  | cons row rows =>
    obtain ⟨c, more, begins, named⟩ := row.exists_text_append (rows.flatMap Row.text)
    rw [List.flatMap_cons, begins]
    unfold dropByteOrderMark
    split
    · next same =>
      obtain ⟨rfl, -⟩ := List.cons.inj same
      cases named
    · rfl

/-- **A document of plain rows with different names holds their items, in order.** -/
theorem parse?_rows (rows : List Row) (distinct : ((rows.map Row.entry).map (·.1)).Nodup) :
    parse? (String.ofList (rows.flatMap Row.text)) = some (rows.map Row.entry) := by
  rw [parse?, String.toList_ofList, dropByteOrderMark_rows, statements?_rows, Option.bind_some,
    enterHeaders_pairs [] rows (by simpa using distinct), List.nil_append]

/-! ### Rows with a text, a truth value and a number -/

/-- The characters that stand for themselves between double quotes. -/
def isUnescaped (c : Char) : Bool := c != '"' && c != '\\' && isPlain c

/-- A text without escapes is read up to the quote that ends it. -/
theorem basicText?_plain {text : List Char} (plain : ∀ c ∈ text, isUnescaped c = true)
    (rest : List Char) :
    basicText? (text ++ '"' :: rest) = some (text, rest) := by
  induction text with
  | nil => rw [List.nil_append, basicText?, if_pos rfl]
  | cons c text ih =>
    obtain ⟨unescaped, later⟩ := List.forall_mem_cons.mp plain
    rw [isUnescaped, Bool.and_eq_true, Bool.and_eq_true, bne_iff_ne, bne_iff_ne] at unescaped
    obtain ⟨⟨noQuote, noBackslash⟩, shown⟩ := unescaped
    rw [List.cons_append, basicText?, if_neg noQuote, if_neg noBackslash, if_pos shown, ih later]
    rfl

/-- A text without escapes, not empty, is read between its quotes. -/
theorem value?_quoted {text : List Char} (some : text ≠ []) (plain : ∀ c ∈ text, isUnescaped c = true)
    (rest : List Char) :
    value? ('"' :: (text ++ '"' :: rest)) = .some (.string (String.ofList text), rest) := by
  obtain ⟨c, more, rfl⟩ := List.exists_cons_of_ne_nil some
  have noQuote : c ≠ '"' := by
    rintro rfl
    cases plain '"' List.mem_cons_self
  have quoted : quoted? ('"' :: (c :: more ++ '"' :: rest)) = .some (c :: more, rest) := by
    rw [quoted?]
    · exact basicText?_plain plain rest
    · intro after same
      exact noQuote (List.cons.inj same).1
  rw [value?, valueTo?, quoted]
  rfl

/-- A number, a word or a date is read up to the end of its row. -/
theorem value?_scalar (run : List Char) {c : Char} (first : run.head? = some c)
    (apart : c ≠ '"' ∧ c ≠ '\'' ∧ c ≠ '[' ∧ c ≠ '\x7b') (all : ∀ c ∈ run, isScalarChar c = true)
    (noDate : isDate run = false) (rest : List Char) :
    value? (run ++ '\n' :: rest) = (scalarOf? run).map fun item => (item, '\n' :: rest) := by
  have stop : isScalarChar '\n' = false := by decide
  have taken : (run ++ '\n' :: rest).takeWhile isScalarChar = run := by
    rw [List.takeWhile_append_of_pos all, List.takeWhile_cons_of_neg (by simp [stop]),
      List.append_nil]
  have dropped : (run ++ '\n' :: rest).dropWhile isScalarChar = '\n' :: rest := by
    rw [List.dropWhile_append_of_pos all, List.dropWhile_cons_of_neg (by simp [stop])]
  have scalar : scalar? (run ++ '\n' :: rest)
      = (scalarOf? run).map fun item => (item, '\n' :: rest) := by
    rw [scalar?, taken, dropped, if_neg (by simp [noDate])]
  obtain ⟨double, single, bracket, brace⟩ := apart
  obtain ⟨d, more, rfl⟩ := List.exists_cons_of_ne_nil (l := run) (by rintro rfl; cases first)
  obtain rfl := Option.some.inj first
  rw [value?, ← scalar]
  unfold valueTo?
  split
  · next same => exact absurd (List.cons.inj same).1 double
  · next same => exact absurd (List.cons.inj same).1 single
  · next same _ => exact absurd (List.cons.inj same).1 bracket
  · next same _ => exact absurd (List.cons.inj same).1 brace
  · rfl

section Digits

open CharClass (isDigit)
open Grammar (Digits)

variable {digits : List Char} (all : Digits digits)

include all

/-- No other character is among digits. -/
theorem not_mem_digits {c : Char} (other : isDigit c = false) : c ∉ digits := by
  intro member
  rw [all c member] at other
  cases other

theorem date?_digits : date? digits = none := by
  have noDash : '-' ∉ digits := not_mem_digits all (by decide)
  unfold date?
  split
  · exact absurd (by simp) noDash
  · rfl

theorem time?_digits : time? digits = none := by
  have noColon : ':' ∉ digits := not_mem_digits all (by decide)
  unfold time?
  split
  · exact absurd (by simp) noColon
  · rfl

/-- Digits alone have no fraction and no exponent. -/
theorem isFloat_digits : isFloat digits = false := by
  have group : ∀ c ∈ digits, isGroupChar c = true := by
    intro c member
    rw [isGroupChar, all c member]
    rfl
  have dropped : digits.dropWhile isGroupChar = [] :=
    List.dropWhile_eq_nil_iff.mpr group
  have noWord : 'n' ∉ digits := not_mem_digits all (by decide)
  have noWord : ¬ (decide (digits = ['i', 'n', 'f']) || decide (digits = ['n', 'a', 'n'])) = true := by
    rw [Bool.or_eq_true, decide_eq_true_eq, decide_eq_true_eq]
    rintro (rfl | rfl)
    · exact noWord (by simp)
    · exact noWord (by simp)
  rw [isFloat, Numeral.splitSign_digits all]
  dsimp only
  rw [if_neg noWord, dropped]
  show (_ && isExponent [] && _) = false
  rw [isExponent, Bool.and_false, Bool.false_and]

/-- Digits need no grouping. -/
theorem ungroup?_digits (some : digits ≠ []) : ungroup? isDigit digits = .some digits := by
  induction digits with
  | nil => exact absurd rfl some
  | cons c rest ih =>
    have digit : isDigit c = true := all c List.mem_cons_self
    cases rest with
    | nil => rw [ungroup?, if_pos digit]
    | cons d more =>
      have noMark : d ≠ '_' := by
        rintro rfl
        exact not_mem_digits all (c := '_') (by decide) (by simp)
      rw [ungroup?, if_pos digit, ih (fun e member => all e (List.mem_cons_of_mem c member)) nofun]
      · rfl
      · nofun
      · intro after same
        exact noMark (List.cons.inj same).1

/-- Digits that do not begin with a zero write a whole number, if it is not too large. -/
theorem scalarOf?_digits (some : digits ≠ []) (leading : digits.head? ≠ .some '0' ∨ digits.length = 1)
    (small : Numeral.natOfDigits digits ≤ largestInteger) :
    scalarOf? digits = .some (.integer (Numeral.natOfDigits digits)) := by
  have noDateTime : isDateTime digits = false := by
    rw [isDateTime, time?_digits all, date?_digits all]
    rfl
  have decimal : decimalDigits? digits = .some digits := by
    rw [decimalDigits?, ungroup?_digits all some]
    exact if_pos (by simpa using leading)
  have integer : integer? digits = .some (Numeral.natOfDigits digits : Int) := by
    unfold integer?
    split
    · exact absurd (by simp) (not_mem_digits all (c := 'x') (by decide))
    · exact absurd (by simp) (not_mem_digits all (c := 'o') (by decide))
    · exact absurd (by simp) (not_mem_digits all (c := 'b') (by decide))
    · rw [Numeral.splitSign_digits all]
      show (decimalDigits? digits).bind _ = _
      rw [decimal]
      exact if_pos small
  have noWord {word : List Char} (letter : ∃ c ∈ word, isDigit c = false) : digits ≠ word := by
    rintro rfl
    obtain ⟨c, member, other⟩ := letter
    exact not_mem_digits all other member
  rw [scalarOf?, if_neg (noWord ⟨'t', List.mem_cons_self, rfl⟩),
    if_neg (noWord ⟨'f', List.mem_cons_self, rfl⟩), noDateTime,
    isFloat_digits all, integer]
  rfl

end Digits

/-- A whole number is printed in digits, and the first is a zero only if it is alone. -/
theorem toDigits_spells (value : Nat) :
    Grammar.Digits (Nat.toDigits 10 value) ∧ Nat.toDigits 10 value ≠ []
      ∧ ((Nat.toDigits 10 value).head? ≠ some '0' ∨ (Nat.toDigits 10 value).length = 1)
      ∧ Numeral.natOfDigits (Nat.toDigits 10 value) = value := by
  refine ⟨fun c member => ?_, Nat.toDigits_ne_nil, ?_, Nat.ofDigitChars_ten_toDigits⟩
  · have digit : c.isDigit = true := Nat.isDigit_of_mem_toDigits (by decide) (by decide) member
    rw [Char.isDigit, Bool.and_eq_true, decide_eq_true_eq, decide_eq_true_eq] at digit
    rw [CharClass.isDigit, Bool.and_eq_true, decide_eq_true_eq, decide_eq_true_eq]
    exact digit
  · rcases Nat.eq_zero_or_pos value with rfl | positive
    · exact Or.inr rfl
    · exact Or.inl (head?_toDigits positive)

theorem isScalarChar_of_digit {c : Char} (digit : CharClass.isDigit c = true) :
    isScalarChar c = true := by
  rw [CharClass.isDigit] at digit
  rw [isScalarChar, isNameChar, digit]
  simp

/-- A whole number that is not too large is read up to the end of its row. -/
theorem value?_toDigits {value : Nat} (small : value ≤ largestInteger) (rest : List Char) :
    value? (Nat.toDigits 10 value ++ '\n' :: rest) = some (.integer value, '\n' :: rest) := by
  obtain ⟨all, some, leading, written⟩ := toDigits_spells value
  obtain ⟨digit, more, spelled⟩ := List.exists_cons_of_ne_nil some
  have first : (Nat.toDigits 10 value).head? = .some digit := by rw [spelled, List.head?_cons]
  have isDigit : CharClass.isDigit digit = true := all digit (List.mem_of_mem_head? first)
  have apart : digit ≠ '"' ∧ digit ≠ '\'' ∧ digit ≠ '[' ∧ digit ≠ '\x7b' := by
    refine ⟨?_, ?_, ?_, ?_⟩
    all_goals
      rintro rfl
      cases isDigit
  have noDate : isDate (Nat.toDigits 10 value) = false := by
    rw [isDate, date?_digits all]
    rfl
  rw [value?_scalar _ first apart (fun c member => isScalarChar_of_digit (all c member)) noDate,
    scalarOf?_digits all some leading (written.symm ▸ small), written]
  rfl

namespace Row

/-- A row with a text that needs no escapes. -/
def ofText (name text : List Char) (named : name ≠ []) (bare : name.all isNameChar = true)
    (some : text ≠ []) (plain : text.all isUnescaped = true) : Row where
  name := name
  spelling := '"' :: (text ++ ['"'])
  item := .string (String.ofList text)
  named := named
  bare := List.all_eq_true.mp bare
  solid := by simp [isBlank]
  reads rest := by
    have read := value?_quoted some (List.all_eq_true.mp plain) ('\n' :: rest)
    simpa using read

/-- A row with a truth value. -/
def ofBoolean (name : List Char) (value : Bool) (named : name ≠ [])
    (bare : name.all isNameChar = true) : Row where
  name := name
  spelling := if value then ['t', 'r', 'u', 'e'] else ['f', 'a', 'l', 's', 'e']
  item := .boolean value
  named := named
  bare := List.all_eq_true.mp bare
  solid c first := by
    cases value with
    | false =>
      obtain rfl := Option.some.inj first
      rfl
    | true =>
      obtain rfl := Option.some.inj first
      rfl
  reads rest := by
    cases value with
    | false =>
      exact value?_scalar ['f', 'a', 'l', 's', 'e'] rfl (by decide)
        (List.all_eq_true.mp rfl) rfl rest
    | true =>
      exact value?_scalar ['t', 'r', 'u', 'e'] rfl (by decide)
        (List.all_eq_true.mp rfl) rfl rest

/-- A row with a whole number that is not too large. -/
def ofNatural (name : List Char) (value : Nat) (named : name ≠ [])
    (bare : name.all isNameChar = true) (small : value ≤ largestInteger) : Row where
  name := name
  spelling := Nat.toDigits 10 value
  item := .integer value
  named := named
  bare := List.all_eq_true.mp bare
  solid := by
    intro c first
    obtain ⟨all, -⟩ := toDigits_spells value
    have digit := all c (List.mem_of_mem_head? first)
    by_contra blank
    rw [Bool.not_eq_false, isBlank, Bool.or_eq_true, beq_iff_eq, beq_iff_eq] at blank
    rcases blank with rfl | rfl
    · cases digit
    · cases digit
  reads := value?_toDigits small

end Row

end ExprLexer.Toml
