import ExprLexer.Proofs.CommentedRows
import ExprLexer.Proofs.DocumentKeys
import ExprLexer.Proofs.SavedSettings
import Mathlib.Algebra.Group.Int.Defs
import Mathlib.Algebra.Group.Nat.Defs
import Mathlib.Tactic.SplitIfs

/-!
Which files are loaded as settings, and as which.

* `Toml.IsValue`: what a row gives to a key is a value, and whole numbers have 64 bits;
  `Toml.isValue_of_statements?`: **that is so in every document**;
* `Toml.Absent`, `Toml.Gives`: no row begins with a name, or just one does and gives it a value;
  `Toml.absent_iff`, `Toml.gives_iff`: **that is what stands under the name in the end**;
* `Toml.SameRows`: two documents have the same rows about a name; `Toml.rows?_congr`: **comments are in no
  rows at all**;
* `Settings.GivenBy`: the settings that the rows of a document give, each with its default;
* `load_eq_ok_iff`: **a file is loaded exactly if it is a document whose rows give settings**, in which
  no key stands twice, and nothing but the rows that begin with the three names counts.
-/

namespace ExprLexer

namespace Toml

/-! ### Values -/

/-- A value, no table made by headers and keys with dots; a whole number has 64 bits with its sign. -/
structure IsValue (item : Item) : Prop where
  plain : item.isTable = false
  bounded : ∀ value, item = .integer value → -(2 ^ 63) ≤ value ∧ value ≤ 2 ^ 63 - 1

theorem integer?_bounds {chars : List Char} {value : Int} (read : integer? chars = some value) :
    -(2 ^ 63) ≤ value ∧ value ≤ 2 ^ 63 - 1 := by
  have largest : largestInteger = 2 ^ 63 - 1 := by decide
  have based {base : Nat} {digits : List Char} (read : based? base digits = some value) :
      -(2 ^ 63) ≤ value ∧ value ≤ 2 ^ 63 - 1 := by
    obtain ⟨size, -, small⟩ := Option.bind_eq_some_iff.mp read
    split at small
    · obtain rfl := Option.some.inj small
      omega
    · cases small
  unfold integer? at read
  split at read
  · exact based read
  · exact based read
  · exact based read
  · generalize Numeral.splitSign _ = signed at read
    obtain ⟨negative, magnitude⟩ := signed
    obtain ⟨digits, -, small⟩ := Option.bind_eq_some_iff.mp read
    dsimp only at small
    split_ifs at small
    all_goals
      obtain rfl := Option.some.inj small
      omega

/-- Only whole numbers are read as whole numbers. -/
theorem isValue_of_other {item : Item} (plain : item.isTable = false)
    (other : ∀ value, item ≠ .integer value) : IsValue item :=
  ⟨plain, fun value same => absurd same (other value)⟩

theorem isValue_of_scalarOf? {chars : List Char} {item : Item} (read : scalarOf? chars = some item) :
    IsValue item := by
  unfold scalarOf? at read
  split_ifs at read
  case neg =>
    obtain ⟨number, whole, rfl⟩ := Option.map_eq_some_iff.mp read
    refine ⟨rfl, fun value same => ?_⟩
    obtain rfl := Item.integer.inj same
    exact integer?_bounds whole
  all_goals
    obtain rfl := Option.some.inj read
    exact isValue_of_other rfl nofun

/-- A date is no whole number. -/
theorem isValue_of_spacedDate? {date chars rest : List Char} {item : Item}
    (read : spacedDate? date chars = some (item, rest)) : IsValue item := by
  have spelled : ∃ spelling, item = .dateTime spelling := by
    unfold spacedDate? at read
    split at read
    · dsimp only at read
      split_ifs at read
      all_goals exact ⟨_, (Prod.mk.inj (Option.some.inj read)).1.symm⟩
    · exact ⟨_, (Prod.mk.inj (Option.some.inj read)).1.symm⟩
  obtain ⟨spelling, rfl⟩ := spelled
  exact isValue_of_other rfl nofun

theorem isValue_of_scalar? {chars rest : List Char} {item : Item}
    (read : scalar? chars = some (item, rest)) : IsValue item := by
  unfold scalar? at read
  dsimp only at read
  split at read
  · exact isValue_of_spacedDate? read
  · obtain ⟨found, scalar, same⟩ := Option.map_eq_some_iff.mp read
    obtain ⟨rfl, -⟩ := Prod.mk.inj same
    exact isValue_of_scalarOf? scalar

theorem isValue_of_inlineTable? {value : Reader Item} {chars rest : List Char} {item : Item}
    (read : inlineTable? value chars = some (item, rest)) : IsValue item := by
  have spelled : ∃ entries, item = .inline entries := by
    unfold inlineTable? at read
    split at read
    · exact ⟨_, (Prod.mk.inj (Option.some.inj read)).1.symm⟩
    · split at read
      · cases read
      · obtain ⟨entries, -, same⟩ := Option.map_eq_some_iff.mp read
        exact ⟨entries, (Prod.mk.inj same).1.symm⟩
  obtain ⟨entries, rfl⟩ := spelled
  exact isValue_of_other rfl nofun

theorem isValue_of_value? {chars rest : List Char} {item : Item}
    (read : value? chars = some (item, rest)) : IsValue item := by
  unfold value? valueTo? at read
  split at read
  case h_4 => exact isValue_of_inlineTable? read
  case h_5 => exact isValue_of_scalar? read
  all_goals
    obtain ⟨found, -, same⟩ := Option.map_eq_some_iff.mp read
    obtain ⟨rfl, -⟩ := Prod.mk.inj same
    exact isValue_of_other rfl nofun

theorem isValue_of_statement? {chars rest : List Char} {key : KeyPath} {item : Item}
    (read : statement? chars = some (.pair key item, rest)) : IsValue item := by
  unfold statement? at read
  obtain ⟨⟨statement, behind⟩, read, ended⟩ := Option.bind_eq_some_iff.mp read
  obtain ⟨final, -, same⟩ := Option.map_eq_some_iff.mp ended
  obtain ⟨rfl, -⟩ := Prod.mk.inj same
  split at read
  · obtain ⟨header, -, same⟩ := Option.map_eq_some_iff.mp read
    cases (Prod.mk.inj same).1
  · obtain ⟨header, -, same⟩ := Option.map_eq_some_iff.mp read
    cases (Prod.mk.inj same).1
  · split at read
    · cases read
    · obtain ⟨⟨found, after⟩, value, same⟩ := Option.map_eq_some_iff.mp read
      obtain ⟨-, rfl⟩ := Statement.pair.inj (Prod.mk.inj same).1
      exact isValue_of_value? value

/-- Rows are read one after the other, each behind what does not count. -/
theorem exists_of_statements? {chars : List Char} {rows : List Statement}
    (read : statements? chars = some rows) :
    rows = [] ∨ ∃ row rest later, statement? (skipTrivia false chars) = some (row, rest)
      ∧ statements? rest = some later ∧ rows = row :: later := by
  rw [statements?_eq] at read
  split at read
  · exact Or.inl (Option.some.inj read).symm
  · obtain ⟨⟨row, rest⟩, one, read⟩ := Option.bind_eq_some_iff.mp read
    obtain ⟨later, others, rfl⟩ := Option.map_eq_some_iff.mp read
    exact Or.inr ⟨row, rest, later, one, others, rfl⟩

/-- **What a document gives to a key is a value.** -/
theorem isValue_of_statements? {chars : List Char} {rows : List Statement}
    (read : statements? chars = some rows) {key : KeyPath} {item : Item}
    (member : Statement.pair key item ∈ rows) : IsValue item := by
  induction rows generalizing chars with
  | nil => cases member
  | cons row later ih =>
    rcases exists_of_statements? read with none | ⟨_, rest, _, one, others, same⟩
    · cases none
    · obtain ⟨rfl, rfl⟩ := List.cons.inj same
      rcases List.mem_cons.mp member with rfl | member
      · exact isValue_of_statement? one
      · exact ih others member

theorem mem_of_mem_splitPairs {rows : List Statement} {pair : KeyPath × Item}
    (member : pair ∈ (splitPairs rows).1) : Statement.pair pair.1 pair.2 ∈ rows := by
  fun_induction splitPairs rows with
  | case1 key item rest ih =>
    rcases List.mem_cons.mp member with rfl | member
    · exact List.mem_cons_self
    · exact List.mem_cons_of_mem _ (ih member)
  | case2 => cases member

/-! ### Rows that begin with a name -/

/-- The rows of a text. -/
def rows? (text : String) : Option (List Statement) := statements? (dropByteOrderMark text.toList)

/-- **Texts that are the same but for comments have the same rows.** -/
theorem rows?_congr {text text' : String}
    (same : withoutComments text'.toList = withoutComments text.toList) : rows? text' = rows? text := by
  have marked (chars : List Char) : dropByteOrderMark chars = (behind? '\ufeff' chars).getD chars := by
    unfold dropByteOrderMark
    split
    · rfl
    · next noMark => rw [behind?_of_ne noMark, Option.getD_none]
  have unmarked (chars : List Char) :
      dropByteOrderMark (withoutComments chars) = withoutComments (dropByteOrderMark chars) := by
    rw [marked, marked, behind?_withoutComments (by decide)]
    cases behind? '\ufeff' chars <;> rfl
  rw [rows?, rows?, ← statements?_withoutComments, ← unmarked, same, unmarked, statements?_withoutComments]

/-- The keys before the first header that begin with a name. -/
def keysOf (name : String) (rows : List Statement) : List (KeyPath × Item) :=
  (splitPairs rows).1.filter (·.1.first = name)

/-- The headers that begin with a name. -/
def headersOf (name : String) (rows : List Statement) : List KeyPath :=
  (headers rows).filter (·.first = name)

/-- No row begins with the name. -/
def Absent (name : String) (rows : List Statement) : Prop :=
  keysOf name rows = [] ∧ headersOf name rows = []

/-- One row gives a value to the name, and no other row begins with it. -/
def Gives (name : String) (item : Item) (rows : List Statement) : Prop :=
  keysOf name rows = [(⟨[], name⟩, item)] ∧ headersOf name rows = []

/-- The rows that begin with a name are the same. -/
def SameRows (name : String) (rows rows' : List Statement) : Prop :=
  keysOf name rows = keysOf name rows' ∧ headersOf name rows = headersOf name rows'

/-- The rows of a text are those of a document. -/
def Document (text : String) (rows : List Statement) (entries : Entries) : Prop :=
  rows? text = some rows ∧ enterHeaders [] rows = some entries

/-- Plain rows with different names are those of a document. -/
theorem document_rows (rows : List Row) (distinct : ((rows.map Row.entry).map (·.1)).Nodup) :
    Document (String.ofList (rows.flatMap Row.text)) (rows.map Row.statement) (rows.map Row.entry) := by
  refine ⟨?_, ?_⟩
  · rw [rows?, String.toList_ofList, dropByteOrderMark_rows, statements?_rows]
  · rw [enterHeaders_pairs [] rows (by simpa using distinct), List.nil_append]

theorem parse?_eq_some_iff {text : String} {entries : Entries} :
    parse? text = some entries ↔ ∃ rows, Document text rows entries := by
  exact Option.bind_eq_some_iff

section Documents

variable {text name : String} {rows : List Statement} {entries : Entries}

theorem standing_of_document (name : String) (document : Document text rows entries) :
    Standing name (splitPairs rows).1 (headers rows) (entries.lookup name) :=
  standing_of_enterHeaders
    (fun _ member => (isValue_of_statements? document.1 (mem_of_mem_splitPairs member)).plain)
    document.2

/-- **Nothing stands under a name exactly if no row begins with it.** -/
theorem absent_iff (document : Document text rows entries) :
    Absent name rows ↔ entries.lookup name = none := by
  have stands := standing_of_document name document
  generalize entries.lookup name = standing at stands
  cases stands with
  | absent noKey noHeader => exact iff_of_true ⟨noKey, noHeader⟩ rfl
  | value only => exact iff_of_false (fun none => by cases only.symm.trans none.1) nofun
  | table dots some =>
    exact iff_of_false (fun none => some.elim (· none.1) (· none.2)) nofun

theorem mem_of_gives {item : Item} (gives : Gives name item rows) :
    ((⟨[], name⟩, item) : KeyPath × Item) ∈ keysOf name rows := by
  rw [gives.1]
  exact List.mem_singleton_self _

/-- **A value stands under a name exactly if one row gives it.** -/
theorem gives_iff (document : Document text rows entries) {item : Item} (plain : item.isTable = false) :
    Gives name item rows ↔ entries.lookup name = some item := by
  have stands := standing_of_document name document
  generalize entries.lookup name = standing at stands
  cases stands with
  | absent noKey => exact iff_of_false (fun gives => by cases noKey.symm.trans gives.1) nofun
  | value only noHeader =>
    refine ⟨fun gives => ?_, fun same => ?_⟩
    · obtain ⟨same, -⟩ := List.cons.inj (only.symm.trans gives.1)
      exact congrArg some (Prod.mk.inj same).2
    · obtain rfl := Option.some.inj same
      exact ⟨only, noHeader⟩
  | table dots some holds =>
    refine iff_of_false (fun gives => ?_) (fun same => ?_)
    · exact dots _ (mem_of_gives gives) rfl
    · obtain rfl := Option.some.inj same
      cases holds.symm.trans plain

/-- A number that stands under a name has 64 bits. -/
theorem bounded_of_gives (document : Document text rows entries) {value : Int}
    (gives : Gives name (.integer value) rows) : -(2 ^ 63) ≤ value ∧ value ≤ 2 ^ 63 - 1 := by
  have row := mem_of_mem_splitPairs (List.mem_of_mem_filter (mem_of_gives gives))
  exact (isValue_of_statements? document.1 row).bounded value rfl

end Documents

/-- No key stands twice before the first header, nor behind any. -/
structure KeysDistinct (rows : List Statement) : Prop where
  first : ((splitPairs rows).1.map (·.1)).Nodup
  behind : ∀ front header rest, rows = front ++ header :: rest → Statement.header? header ≠ none →
    ((splitPairs rest).1.map (·.1)).Nodup

theorem keysDistinct_of_document {text : String} {rows : List Statement} {entries : Entries}
    (document : Document text rows entries) : KeysDistinct rows where
  first := nodup_of_enterHeaders document.2
  behind _ _ _ split opens := nodup_of_header opens split document.2

end Toml

namespace Settings

open Toml (Document Absent Gives)

/-- The settings that the rows of a document give: each key has a row of its own with a value of its
kind, or else no row begins with it and the setting is the default. -/
structure GivenBy (settings : Settings) (rows : List Toml.Statement) : Prop where
  format : Absent "format" rows ∧ settings.format = .plain
    ∨ Gives "format" (.string settings.format.name) rows
  positions : Absent "positions" rows ∧ settings.positions = false
    ∨ Gives "positions" (.boolean settings.positions) rows
  maxTokens : Absent "max_tokens" rows ∧ settings.maxTokens = 10000
    ∨ 1 ≤ settings.maxTokens ∧ settings.maxTokens ≤ 2 ^ 63 - 1
      ∧ Gives "max_tokens" (.integer settings.maxTokens) rows

variable {text : String} {rows : List Toml.Statement} {entries : Toml.Entries}

theorem ofName?_eq_some_iff {name : String} {format : OutputFormat} :
    OutputFormat.ofName? name = some format ↔ name = format.name := by
  refine ⟨fun found => ?_, ?_⟩
  · unfold OutputFormat.ofName? at found
    split_ifs at found with plain json
    · obtain rfl := Option.some.inj found
      exact plain
    · obtain rfl := Option.some.inj found
      exact json
  · rintro rfl
    exact OutputFormat.ofName?_name format

theorem keyOr_format_iff (document : Document text rows entries)
    (named : ∀ item, entries.lookup "format" = some item → ∃ value, item = .string value)
    (format : OutputFormat) :
    keyOr entries "format" .plain format? = some format
      ↔ Absent "format" rows ∧ format = .plain ∨ Gives "format" (.string format.name) rows := by
  rw [Toml.absent_iff document, Toml.gives_iff document rfl, keyOr]
  cases stands : entries.lookup "format" with
  | none => simp [eq_comm]
  | some item =>
    obtain ⟨value, rfl⟩ := named item stands
    simp [format?, ofName?_eq_some_iff]

theorem keyOr_positions_iff (document : Document text rows entries) (positions : Bool) :
    keyOr entries "positions" false boolean? = some positions
      ↔ Absent "positions" rows ∧ positions = false ∨ Gives "positions" (.boolean positions) rows := by
  rw [Toml.absent_iff document, Toml.gives_iff document rfl, keyOr]
  cases stands : entries.lookup "positions" with
  | none => simp [eq_comm]
  | some item => cases item <;> simp [boolean?]

theorem keyOr_maxTokens_iff (document : Document text rows entries) (maxTokens : Nat) :
    keyOr entries "max_tokens" 10000 natural? = some maxTokens ∧ maxTokens ≠ 0
      ↔ Absent "max_tokens" rows ∧ maxTokens = 10000
        ∨ 1 ≤ maxTokens ∧ maxTokens ≤ 2 ^ 63 - 1 ∧ Gives "max_tokens" (.integer maxTokens) rows := by
  have gives : Gives "max_tokens" (.integer maxTokens) rows
      ↔ entries.lookup "max_tokens" = some (.integer maxTokens) :=
    Toml.gives_iff document rfl
  rw [Toml.absent_iff document, keyOr]
  cases stands : entries.lookup "max_tokens" with
  | none =>
    have noRow : ¬ Gives "max_tokens" (.integer maxTokens) rows := by
      rw [gives, stands]
      nofun
    constructor
    · rintro ⟨standard, -⟩
      exact Or.inl ⟨rfl, (Option.some.inj standard).symm⟩
    · rintro (⟨-, rfl⟩ | ⟨-, -, row⟩)
      · exact ⟨rfl, by decide⟩
      · exact absurd row noRow
  | some item =>
    dsimp only
    rw [natural?_eq_some_iff]
    constructor
    · rintro ⟨rfl, allows⟩
      have row := gives.mpr stands
      have bounds := Toml.bounded_of_gives document row
      exact Or.inr ⟨by omega, by omega, row⟩
    · rintro (⟨missing, -⟩ | ⟨allows, -, row⟩)
      · cases missing
      · exact ⟨Option.some.inj (stands.symm.trans (gives.mp row)), by omega⟩

/-- The format that a document names is a text, if it names one. -/
def TextFormat (text : String) : Prop :=
  ∀ entries, Toml.parse? text = some entries →
    ∀ item, entries.lookup "format" = some item → ∃ value, item = .string value

/-- **A document is loaded exactly as the settings that its rows give.** -/
theorem parse_eq_ok_iff_givenBy (named : TextFormat text) (settings : Settings) :
    parse text = .ok settings ↔ ∃ rows entries, Document text rows entries ∧ settings.GivenBy rows := by
  rw [parse_eq_ok_iff]
  constructor
  · rintro ⟨entries, wellFormed, typed, allows⟩
    obtain ⟨rows, document⟩ := Toml.parse?_eq_some_iff.mp wellFormed
    obtain ⟨format, positions, maxTokens⟩ := ofEntries?_eq_some_iff.mp typed
    exact ⟨rows, entries, document, (keyOr_format_iff document (named entries wellFormed) _).mp format,
      (keyOr_positions_iff document _).mp positions,
      (keyOr_maxTokens_iff document _).mp ⟨maxTokens, allows⟩⟩
  · rintro ⟨rows, entries, document, given⟩
    have wellFormed := Toml.parse?_eq_some_iff.mpr ⟨rows, document⟩
    obtain ⟨maxTokens, allows⟩ := (keyOr_maxTokens_iff document _).mpr given.maxTokens
    exact ⟨entries, wellFormed, ofEntries?_eq_some_iff.mpr
      ⟨(keyOr_format_iff document (named entries wellFormed) _).mpr given.format,
        (keyOr_positions_iff document _).mpr given.positions, maxTokens⟩, allows⟩

/-! ### Documents with the same rows for the settings -/

/-- Documents whose rows that begin with a name are the same have the same value there, or both a
table. -/
theorem lookup_congr {other : String} {rows' : List Toml.Statement} {entries' : Toml.Entries}
    {name : String} (document : Document text rows entries) (document' : Document other rows' entries')
    (same : Toml.SameRows name rows rows') :
    entries'.lookup name = entries.lookup name
      ∨ ∃ item item', entries.lookup name = some item ∧ entries'.lookup name = some item'
        ∧ item.isTable = true ∧ item'.isTable = true := by
  have absent : Absent name rows ↔ Absent name rows' := by
    rw [Absent, Absent, same.1, same.2]
  have gives (item : Toml.Item) : Gives name item rows ↔ Gives name item rows' := by
    rw [Gives, Gives, same.1, same.2]
  cases stands : entries.lookup name with
  | none =>
    have missing := absent.mp ((Toml.absent_iff document).mpr stands)
    exact Or.inl ((Toml.absent_iff document').mp missing)
  | some item =>
    cases plain : item.isTable with
    | false =>
      have given := (gives item).mp ((Toml.gives_iff document plain).mpr stands)
      exact Or.inl ((Toml.gives_iff document' plain).mp given)
    | true =>
      refine Or.inr ?_
      cases stands' : entries'.lookup name with
      | none =>
        have missing := absent.mpr ((Toml.absent_iff document').mpr stands')
        cases stands.symm.trans ((Toml.absent_iff document).mp missing)
      | some item' =>
        refine ⟨item, item', rfl, rfl, plain, ?_⟩
        by_contra table
        rw [Bool.not_eq_true] at table
        have given := (gives item').mpr ((Toml.gives_iff document' table).mpr stands')
        obtain rfl := Option.some.inj (stands.symm.trans ((Toml.gives_iff document table).mp given))
        cases plain.symm.trans table

/-- Such documents give the same to a key for which tables are all alike. -/
theorem keyOr_congr {other : String} {rows' : List Toml.Statement} {entries' : Toml.Entries} {α : Type}
    {name : String} {missing : α} {decode? : Toml.Item → Option α}
    (document : Document text rows entries) (document' : Document other rows' entries')
    (same : Toml.SameRows name rows rows')
    (tables : ∀ item item', entries.lookup name = some item → item.isTable = true →
      item'.isTable = true → decode? item' = decode? item) :
    keyOr entries' name missing decode? = keyOr entries name missing decode? := by
  rw [keyOr, keyOr]
  rcases lookup_congr document document' same with
    alike | ⟨item, item', stands, stands', table, table'⟩
  · rw [alike]
  · rw [stands, stands']
    exact tables item item' stands table table'

theorem boolean?_of_isTable {item : Toml.Item} (table : item.isTable = true) : boolean? item = none := by
  cases item with
  | boolean value => cases table
  | _ => rfl

theorem natural?_of_isTable {item : Toml.Item} (table : item.isTable = true) : natural? item = none := by
  cases item with
  | integer value => cases table
  | _ => rfl

/-- The three names that settings have in a document. -/
def names : List String := ["format", "positions", "max_tokens"]

/-- **Nothing but the rows for the settings counts.** -/
theorem parse_congr {other : String} {rows' : List Toml.Statement} {entries' : Toml.Entries}
    (named : TextFormat text) (document : Document text rows entries)
    (document' : Document other rows' entries')
    (same : ∀ name ∈ names, Toml.SameRows name rows rows') : parse other = parse text := by
  have wellFormed := Toml.parse?_eq_some_iff.mpr ⟨rows, document⟩
  have wellFormed' := Toml.parse?_eq_some_iff.mpr ⟨rows', document'⟩
  have format : keyOr entries' "format" OutputFormat.plain format?
      = keyOr entries "format" OutputFormat.plain format? :=
    keyOr_congr document document' (same _ (by decide)) fun item item' stands table _ => by
      obtain ⟨value, rfl⟩ := named entries wellFormed item stands
      cases table
  have positions : keyOr entries' "positions" false boolean? = keyOr entries "positions" false boolean? :=
    keyOr_congr document document' (same _ (by decide)) fun item item' _ table table' => by
      rw [boolean?_of_isTable table, boolean?_of_isTable table']
  have maxTokens : keyOr entries' "max_tokens" 10000 natural?
      = keyOr entries "max_tokens" 10000 natural? :=
    keyOr_congr document document' (same _ (by decide)) fun item item' _ table table' => by
      rw [natural?_of_isTable table, natural?_of_isTable table']
  have typed : ofEntries? entries' = ofEntries? entries := by
    unfold ofEntries?
    dsimp only
    rw [format, positions, maxTokens]
  rw [parse, parse, wellFormed, wellFormed']
  dsimp only
  rw [typed]

/-- **No comment counts.** -/
theorem parse_of_comments {other : String}
    (same : Toml.withoutComments other.toList = Toml.withoutComments text.toList) :
    parse other = parse text := by
  have wellFormed : Toml.parse? other = Toml.parse? text :=
    congrArg (Option.bind · (Toml.enterHeaders [])) (Toml.rows?_congr same)
  rw [parse, parse, wellFormed]

end Settings

/-- **A file is loaded exactly if its text is a document whose rows give settings.**  In a document no key
stands twice behind a header, nor before the first.  Where the rows for the settings are the same, the
outcome is the same, whatever else is in the document and in whichever order; and so it is where two texts
are the same but for comments. -/
theorem load_eq_ok_iff {host : Host} {name text : String}
    (file : host.TextAt (Path.ofString name) text) (format : Settings.TextFormat text) :
    (∀ settings, (Settings.load name : StateM Host _).run host = (.ok settings, host)
      ↔ ∃ rows entries, Toml.Document text rows entries ∧ settings.GivenBy rows)
    ∧ (∀ rows entries, Toml.Document text rows entries → Toml.KeysDistinct rows)
    ∧ (∀ other name' text' rows entries rows' entries', Host.TextAt other (Path.ofString name') text' →
      Toml.Document text rows entries → Toml.Document text' rows' entries' →
      (∀ key ∈ Settings.names, Toml.SameRows key rows rows') →
      ((Settings.load name' : StateM Host _).run other).1
        = ((Settings.load name : StateM Host _).run host).1)
    ∧ ∀ other name' text', Host.TextAt other (Path.ofString name') text' →
      Toml.withoutComments text'.toList = Toml.withoutComments text.toList →
      ((Settings.load name' : StateM Host _).run other).1
        = ((Settings.load name : StateM Host _).run host).1 := by
  refine ⟨fun settings => ?_, fun rows entries document => Toml.keysDistinct_of_document document,
    fun other name' text' rows entries rows' entries' file' document document' same => ?_,
    fun other name' text' file' same => ?_⟩
  · rw [← Settings.parse_eq_ok_iff_givenBy format, Settings.run_load file]
    cases Settings.parse text with
    | error error => exact iff_of_false nofun nofun
    | ok found =>
      refine ⟨fun loads => ?_, fun same => ?_⟩
      · exact congrArg Except.ok (Except.ok.inj (Prod.mk.inj loads).1)
      · rw [Except.ok.inj same]
        rfl
  · rw [Settings.run_load file, Settings.run_load file',
      Settings.parse_congr format document document' same]
  · rw [Settings.run_load file, Settings.run_load file', Settings.parse_of_comments same]

/-- A file with a title and a number: the title does not count, and the number does. -/
theorem load_eq_ok_iff_titled :
    ∃ host : Host, (Settings.load "calxt.toml" : StateM Host _).run host
      = (.ok ⟨.plain, false, 7⟩, host) := by
  let rows : List Toml.Row :=
    [.ofText "title".toList "x".toList (by decide) (by decide) (by decide) (by decide),
      .ofNatural "max_tokens".toList 7 (by decide) (by decide) (by decide)]
  have distinct : ((rows.map Toml.Row.entry).map (·.1)).Nodup := by
    show ["title", "max_tokens"].Nodup
    decide
  have document := Toml.document_rows rows distinct
  let text := String.ofList (rows.flatMap Toml.Row.text)
  let entries := [(["work", "calxt.toml"], Entry.file text.toUTF8), (["work"], .directory)]
  let host : Host := ⟨⟨entries, ["work"]⟩, .empty⟩
  have file : host.TextAt (Path.ofString "calxt.toml") text := ⟨text.toUTF8, rfl, fromUTF8?_toUTF8 text⟩
  have format : Settings.TextFormat text := by
    intro entries wellFormed item stands
    rw [Toml.parse?_rows rows distinct] at wellFormed
    obtain rfl := Option.some.inj wellFormed
    cases stands
  refine ⟨host, ((load_eq_ok_iff file format).1 _).mpr ⟨_, _, document, ?_⟩⟩
  exact ⟨Or.inl ⟨⟨rfl, rfl⟩, rfl⟩, Or.inl ⟨⟨rfl, rfl⟩, rfl⟩, Or.inr ⟨by decide, by decide, rfl, rfl⟩⟩

end ExprLexer
