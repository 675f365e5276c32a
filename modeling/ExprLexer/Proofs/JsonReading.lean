import ExprLexer.Proofs.JsonScalars

/-!
JSON can be read back.

The reader is no inverse of the printed form: it takes any JSON without nulls whose numbers are whole,
with blanks wherever they may stand and with every escape, and it refuses everything else.

* `Json.decode?`: the value that a text writes;
* `Json.entriesTo?_rowsTo`: rows that are read as entries are read as a list of them;
* `Json.valueTo?_layout`: **a value is read off the front of its printed form**, at any depth and
  whatever follows it that no digit begins;
* `Json.decode?_pretty`: **the printed form of a value writes that value**.

Lists and objects are read by one reader, for which it is enough that each entry is read off the front
of its row.  The depth that the reader is given is the length of the text: a value nested in another is
shorter.
-/

namespace ExprLexer.Json

open Toml (Reader)

/-! ### Lists and objects -/

/-- The entries behind an opening bracket or a comma, with commas between them, up to the closing
bracket. -/
def entriesTo? {α : Type} (entry : Reader α) (closing : Char) (chars : List Char) :
    Option (List α × List Char) :=
  match entry (skipBlanks chars) with
  | none => none
  | some (first, after) =>
    match skipBlanks after with
    | [] => none
    | c :: rest =>
      if c = closing then some ([first], rest)
      else if c = ',' then
        if _shorter : rest.length < chars.length then
          (entriesTo? entry closing rest).map fun (others, final) => (first :: others, final)
        else none
      else none
termination_by chars.length

/-- The entries behind an opening bracket, if any, up to the closing bracket. -/
def entries? {α : Type} (entry : Reader α) (closing : Char) : Reader (List α) := fun chars =>
  match skipBlanks chars with
  | [] => none
  | c :: rest => if c = closing then some ([], rest) else entriesTo? entry closing chars

/-- A key, a colon and a value. -/
def member? (value : Reader Json) : Reader (String × Json) := fun chars =>
  (text? chars).bind fun (key, after) =>
    match skipBlanks after with
    | ':' :: start => (value (skipBlanks start)).map fun (json, rest) => ((key, json), rest)
    | _ => none

/-- A value in which others nest up to some depth. -/
def valueTo? : Nat → Reader Json
  | depth, chars =>
    match chars, depth with
    | '"' :: _, _ => (text? chars).map fun (value, rest) => (text value, rest)
    | 't' :: _, _ | 'f' :: _, _ => (boolean? chars).map fun (value, rest) => (boolean value, rest)
    | '[' :: inner, depth + 1 =>
      (entries? (valueTo? depth) ']' inner).map fun (items, rest) => (list items, rest)
    | '\x7b' :: inner, depth + 1 =>
      (entries? (member? (valueTo? depth)) '\x7d' inner).map fun (fields, rest) =>
        (object fields, rest)
    | _, _ => (number? chars).map fun (value, rest) => (number value, rest)

/-- The value that a text writes, with blanks around it or none. -/
def decode? (source : String) : Option Json :=
  (valueTo? source.length (skipBlanks source.toList)).bind fun (json, rest) =>
    if skipBlanks rest = [] then some json else none

/-- Values are made of values: what holds of the parts holds of the whole. -/
@[elab_as_elim]
theorem induct {motive : Json → Prop} (text : ∀ value, motive (text value))
    (number : ∀ value, motive (number value)) (boolean : ∀ value, motive (boolean value))
    (list : ∀ items, (∀ item ∈ items, motive item) → motive (list items))
    (object : ∀ fields, (∀ field ∈ fields, motive field.2) → motive (object fields))
    (json : Json) : motive json :=
  match json with
  | .text value => text value
  | .number value => number value
  | .boolean value => boolean value
  | .list items =>
    list items fun item _member => induct text number boolean list object item
  | .object fields =>
    object fields fun field _member => induct text number boolean list object field.2
termination_by json
decreasing_by
  · have smaller := List.sizeOf_lt_of_mem _member
    simp only [Json.list.sizeOf_spec]
    omega
  · have smaller := List.sizeOf_lt_of_mem _member
    cases field
    simp only [Json.object.sizeOf_spec, Prod.mk.sizeOf_spec] at smaller ⊢
    omega

/-! ### Reading the printed form -/

theorem layoutItems_eq (depth : Nat) (items : List Json) :
    layoutItems depth items = items.map (layout depth) := by
  induction items with
  | nil => rfl
  | cons item items ih => rw [layoutItems, ih, List.map_cons]

theorem layoutFields_eq (depth : Nat) (fields : List (String × Json)) :
    layoutFields depth fields = fields.map (layoutField depth) := by
  induction fields with
  | nil => rfl
  | cons field fields ih => rw [layoutFields, ih, List.map_cons]

theorem layoutField_eq (depth : Nat) (field : String × Json) : layoutField depth field
    = '"' :: field.1.toList.flatMap escape ++ '"' :: ':' :: ' ' :: layout depth field.2 := by
  obtain ⟨key, json⟩ := field
  simp [layoutField, quote]

/-- A row is read as an entry.  It begins with neither a blank nor the closing bracket, and the rest has
to be short enough for a bound on the depth. -/
structure ReadsRow {α : Type} (entry : Reader α) (closing : Char) (bound : Nat) (row : List Char)
    (value : α) : Prop where
  starts : ∃ c chars, row = c :: chars ∧ isBlank c = false ∧ c ≠ closing
  read : ∀ rest, NoDigit rest → (row ++ rest).length ≤ bound →
    entry (row ++ rest) = some (value, rest)

theorem length_le_of_append (front back : List Char) : back.length ≤ (front ++ back).length := by
  simp

section Rows

variable {α : Type} {entry : Reader α} {closing : Char} {bound : Nat} {row : α → List Char}

/-- What is printed behind an opening bracket: the rows, and the closing bracket in its own row. -/
def rowsTo (depth : Nat) (closing : Char) (rows : List (List Char)) (rest : List Char) : List Char :=
  '\n' :: List.intercalate [',', '\n'] (rows.map (margin (depth + 1) ++ ·)) ++
    '\n' :: margin depth ++ closing :: rest

theorem rowsTo_singleton (depth : Nat) (row rest : List Char) :
    rowsTo depth closing [row] rest
      = '\n' :: margin (depth + 1) ++ (row ++ ('\n' :: margin depth ++ closing :: rest)) := by
  simp [rowsTo]

theorem rowsTo_cons (depth : Nat) (row second : List Char) (rows : List (List Char))
    (rest : List Char) :
    rowsTo depth closing (row :: second :: rows) rest
      = '\n' :: margin (depth + 1) ++ (row ++ ',' :: rowsTo depth closing (second :: rows) rest) := by
  simp [rowsTo]

theorem ReadsRow.skipBlanks_newRow {line : List Char} {value : α}
    (reads : ReadsRow entry closing bound line value) (depth : Nat) (rest : List Char) :
    skipBlanks ('\n' :: margin depth ++ (line ++ rest)) = line ++ rest := by
  obtain ⟨c, chars, rfl, solid, -⟩ := reads.starts
  exact Json.skipBlanks_newRow depth solid (chars ++ rest)

/-- Rows that are read as entries are read as a list of them. -/
theorem entriesTo?_rowsTo (solid : isBlank closing = false) (noComma : closing ≠ ',') (depth : Nat)
    {first : α} {items : List α}
    (reads : ∀ item ∈ first :: items, ReadsRow entry closing bound (row item) item)
    (rest : List Char)
    (short : (rowsTo depth closing ((first :: items).map row) rest).length ≤ bound) :
    entriesTo? entry closing (rowsTo depth closing ((first :: items).map row) rest)
      = some (first :: items, rest) := by
  induction items generalizing first with
  | nil =>
    have head := reads first List.mem_cons_self
    rw [List.map_singleton, rowsTo_singleton] at short ⊢
    have read := head.read ('\n' :: margin depth ++ closing :: rest) (noDigit_cons (by decide) _)
      ((length_le_of_append _ _).trans short)
    rw [entriesTo?, head.skipBlanks_newRow, read]
    simp only [skipBlanks_newRow depth solid, if_true]
  | cons second items ih =>
    have head := reads first List.mem_cons_self
    have tail := @ih second fun item member => reads item (List.mem_cons_of_mem _ member)
    rw [List.map_cons] at tail
    rw [List.map_cons, List.map_cons, rowsTo_cons] at short ⊢
    generalize rowsTo depth closing (row second :: items.map row) rest = others at short tail ⊢
    have shorter : others.length
        < ('\n' :: margin (depth + 1) ++ (row first ++ ',' :: others)).length := by
      simp only [List.length_append, List.length_cons]
      omega
    have read := head.read (',' :: others) (noDigit_cons (by decide) _)
      ((length_le_of_append _ _).trans short)
    have comma : skipBlanks (',' :: others) = ',' :: others := rfl
    rw [entriesTo?, head.skipBlanks_newRow, read]
    simp only [comma, if_neg noComma.symm, if_true, dif_pos shorter,
      tail (Nat.le_of_lt (shorter.trans_le short)), Option.map_some]

theorem exists_rowsTo (closing : Char) (depth : Nat) (line : List Char) (rows : List (List Char))
    (rest : List Char) : ∃ after,
      rowsTo depth closing (line :: rows) rest = '\n' :: margin (depth + 1) ++ (line ++ after) := by
  cases rows with
  | nil => exact ⟨_, rowsTo_singleton depth line rest⟩
  | cons second rows => exact ⟨_, rowsTo_cons depth line second rows rest⟩

/-- Enclosed rows that are read as entries are read as a list of them, behind the opening bracket. -/
theorem entries?_enclose (solid : isBlank closing = false) (noComma : closing ≠ ',') (depth : Nat)
    (opening : Char) {items : List α}
    (reads : ∀ item ∈ items, ReadsRow entry closing bound (row item) item) (rest : List Char)
    (short : (enclose depth opening closing (items.map row) ++ rest).length ≤ bound + 1) :
    ∃ inner, enclose depth opening closing (items.map row) ++ rest = opening :: inner
      ∧ entries? entry closing inner = some (items, rest) := by
  cases items with
  | nil =>
    refine ⟨closing :: rest, rfl, ?_⟩
    have closes : skipBlanks (closing :: rest) = closing :: rest :=
      skipBlanks_append (List.forall_mem_nil _) solid rest
    rw [entries?, closes]
    exact if_pos rfl
  | cons first items =>
    have behind : enclose depth opening closing ((first :: items).map row) ++ rest
        = opening :: rowsTo depth closing ((first :: items).map row) rest := by
      simp [enclose, rowsTo]
    rw [behind] at short ⊢
    refine ⟨_, rfl, ?_⟩
    have read := entriesTo?_rowsTo solid noComma depth reads rest (Nat.le_of_succ_le_succ short)
    -- the first row does not begin with the closing bracket
    have head := reads first List.mem_cons_self
    obtain ⟨c, chars, begins, -, noClosing⟩ := head.starts
    obtain ⟨after, front⟩ := exists_rowsTo closing depth (row first) (items.map row) rest
    have starts : skipBlanks (rowsTo depth closing ((first :: items).map row) rest)
        = c :: (chars ++ after) := by
      rw [List.map_cons, front, head.skipBlanks_newRow, begins, List.cons_append]
    rw [entries?, starts]
    exact (if_neg noClosing).trans read

end Rows

theorem enclose_eq_cons (depth : Nat) (opening closing : Char) (rows : List (List Char)) :
    ∃ chars, enclose depth opening closing rows = opening :: chars := by
  cases rows <;> exact ⟨_, rfl⟩

theorem exists_bound {depth fuel : Nat} {opening closing : Char} {rows : List (List Char)}
    {rest : List Char} (short : (enclose depth opening closing rows ++ rest).length ≤ fuel) :
    ∃ bound, fuel = bound + 1 := by
  obtain ⟨chars, starts⟩ := enclose_eq_cons depth opening closing rows
  rw [starts, List.cons_append, List.length_cons] at short
  exact Nat.exists_eq_succ_of_ne_zero (by omega)

/-- The characters that begin a value. -/
def begins (c : Char) : Bool :=
  c == '"' || c == 't' || c == 'f' || c == '[' || c == '\x7b' || c == '-' || c.isDigit

theorem begins_layout (depth : Nat) (json : Json) :
    ∃ c chars, layout depth json = c :: chars ∧ begins c = true := by
  cases json with
  | text value => exact ⟨'"', _, rfl, rfl⟩
  | number value =>
    obtain ⟨c, chars, spelled, rfl | isDigit⟩ := toString_eq_cons value
    · exact ⟨'-', chars, spelled, rfl⟩
    · exact ⟨c, chars, spelled, by simp [begins, isDigit]⟩
  | boolean value => cases value <;> exact ⟨_, _, rfl, rfl⟩
  | list items =>
    obtain ⟨chars, starts⟩ := enclose_eq_cons depth '[' ']' (layoutItems (depth + 1) items)
    exact ⟨'[', chars, starts, rfl⟩
  | object fields =>
    obtain ⟨chars, starts⟩ :=
      enclose_eq_cons depth '\x7b' '\x7d' (layoutFields (depth + 1) fields)
    exact ⟨'\x7b', chars, starts, rfl⟩

theorem not_isBlank_of_begins {c : Char} (starts : begins c = true) : isBlank c = false := by
  by_contra blank
  rw [Bool.not_eq_false] at blank
  simp only [isBlank, Bool.or_eq_true, beq_iff_eq] at blank
  obtain ((rfl | rfl) | rfl) | rfl := blank <;> cases starts

/-- A field is read off the front of its row, if its value is. -/
theorem member?_layoutField {value : Reader Json} {depth : Nat} {field : String × Json}
    {rest : List Char}
    (read : value (layout depth field.2 ++ rest) = some (field.2, rest)) :
    member? value (layoutField depth field ++ rest) = some (field, rest) := by
  obtain ⟨c, chars, starts, begin⟩ := begins_layout depth field.2
  have behind : layoutField depth field ++ rest
      = quote field.1 ++ ':' :: ' ' :: (layout depth field.2 ++ rest) := by
    simp [layoutField_eq, quote]
  have colon : skipBlanks (':' :: ' ' :: (layout depth field.2 ++ rest))
      = ':' :: ' ' :: (layout depth field.2 ++ rest) := rfl
  have space : skipBlanks (' ' :: (layout depth field.2 ++ rest)) = layout depth field.2 ++ rest := by
    rw [starts]
    have blank : ∀ c ∈ [' '], isBlank c = true := List.forall_mem_singleton.mpr rfl
    exact skipBlanks_append blank (not_isBlank_of_begins begin) (chars ++ rest)
  rw [member?, behind, text?_quote, Option.bind_some]
  simp only [colon, space, read, Option.map_some]

theorem valueTo?_quote (fuel : Nat) (chars : List Char) : valueTo? fuel ('"' :: chars)
    = (text? ('"' :: chars)).map fun (value, rest) => (text value, rest) := by
  cases fuel <;> rfl

theorem valueTo?_bracket (fuel : Nat) (chars : List Char) : valueTo? (fuel + 1) ('[' :: chars)
    = (entries? (valueTo? fuel) ']' chars).map fun (items, rest) => (list items, rest) := rfl

theorem valueTo?_brace (fuel : Nat) (chars : List Char) : valueTo? (fuel + 1) ('\x7b' :: chars)
    = (entries? (member? (valueTo? fuel)) '\x7d' chars).map fun (fields, rest) =>
        (object fields, rest) := rfl

theorem valueTo?_number {c : Char} (begin : c = '-' ∨ c.isDigit = true) (fuel : Nat)
    (chars : List Char) : valueTo? fuel (c :: chars)
      = (number? (c :: chars)).map fun (value, rest) => (number value, rest) := by
  have differs : ∀ d, d ≠ '-' → d.isDigit = false → ∀ tail, c :: chars = d :: tail → False := by
    rintro d noMinus noDigit tail same
    obtain ⟨rfl, -⟩ := List.cons.inj same
    obtain minus | digit := begin
    · exact noMinus minus
    · rw [noDigit] at digit
      cases digit
  rw [valueTo?]
  · exact differs '"' (by decide) (by decide)
  · exact differs 't' (by decide) (by decide)
  · exact differs 'f' (by decide) (by decide)
  · exact fun inner _ same _ => differs '[' (by decide) (by decide) inner same
  · exact fun inner _ same _ => differs '\x7b' (by decide) (by decide) inner same

/-- The row of an item is read as that item, if its printed form is. -/
theorem ReadsRow.of_layout {bound depth : Nat} {item : Json}
    (read : ∀ rest, NoDigit rest → (layout depth item ++ rest).length ≤ bound →
      valueTo? bound (layout depth item ++ rest) = some (item, rest)) :
    ReadsRow (valueTo? bound) ']' bound (layout depth item) item := by
  obtain ⟨c, chars, starts, begin⟩ := begins_layout depth item
  refine ⟨⟨c, chars, starts, not_isBlank_of_begins begin, ?_⟩, read⟩
  rintro rfl
  cases begin

/-- The row of a field is read as that field, if the printed form of its value is. -/
theorem ReadsRow.of_layoutField {bound depth : Nat} {field : String × Json}
    (read : ∀ rest, NoDigit rest → (layout depth field.2 ++ rest).length ≤ bound →
      valueTo? bound (layout depth field.2 ++ rest) = some (field.2, rest)) :
    ReadsRow (member? (valueTo? bound)) '\x7d' bound (layoutField depth field) field := by
  refine ⟨⟨'"', _, layoutField_eq depth field, rfl, by decide⟩, fun rest noDigit short => ?_⟩
  have part : (layout depth field.2 ++ rest).length ≤ (layoutField depth field ++ rest).length := by
    rw [layoutField_eq]
    simp only [List.length_append, List.length_cons]
    omega
  exact member?_layoutField (read rest noDigit (part.trans short))

/-- **A value is read off the front of its printed form**, whatever follows it that no digit begins. -/
theorem valueTo?_layout (json : Json) {depth fuel : Nat} {rest : List Char} (noDigit : NoDigit rest)
    (short : (layout depth json ++ rest).length ≤ fuel) :
    valueTo? fuel (layout depth json ++ rest) = some (json, rest) := by
  induction json using induct generalizing depth fuel rest with
  | text value =>
    have read := text?_quote value rest
    exact (valueTo?_quote fuel _).trans (congrArg (Option.map _) read)
  | number value =>
    have read := number?_toString value noDigit
    obtain ⟨c, chars, starts, begin⟩ := toString_eq_cons value
    rw [layout]
    rw [starts, List.cons_append] at read ⊢
    rw [valueTo?_number begin, read]
    rfl
  | boolean value =>
    cases value <;> cases fuel <;> rfl
  | list items ih =>
    rw [layout, layoutItems_eq] at short ⊢
    obtain ⟨bound, rfl⟩ := exists_bound short
    have reads : ∀ item ∈ items,
        ReadsRow (valueTo? bound) ']' bound (layout (depth + 1) item) item := by
      intro item member
      exact .of_layout fun rest noDigit short => ih item member noDigit short
    obtain ⟨inner, behind, read⟩ := entries?_enclose rfl (by decide) depth '[' reads rest short
    rw [behind, valueTo?_bracket, read]
    rfl
  | object fields ih =>
    rw [layout, layoutFields_eq] at short ⊢
    obtain ⟨bound, rfl⟩ := exists_bound short
    have reads : ∀ field ∈ fields, ReadsRow (member? (valueTo? bound)) '\x7d' bound
        (layoutField (depth + 1) field) field := by
      intro field member
      exact .of_layoutField fun rest noDigit short => ih field member noDigit short
    obtain ⟨inner, behind, read⟩ := entries?_enclose rfl (by decide) depth '\x7b' reads rest short
    rw [behind, valueTo?_brace, read]
    rfl

/-- **The printed form of a value writes that value.** -/
theorem decode?_pretty (json : Json) : decode? json.pretty = some json := by
  obtain ⟨c, chars, starts, begin⟩ := begins_layout 0 json
  have noBlank : skipBlanks (layout 0 json) = layout 0 json := by
    rw [starts]
    exact skipBlanks_append (List.forall_mem_nil _) (not_isBlank_of_begins begin) chars
  have short : (layout 0 json ++ []).length ≤ json.pretty.length := by
    rw [List.append_nil, ← String.length_toList, pretty, String.toList_ofList]
  have read := valueTo?_layout json noDigit_nil short
  rw [List.append_nil] at read
  rw [decode?, pretty, String.toList_ofList, noBlank, ← pretty, read]
  rfl

example : (decode? "\x7b \"a\" :[-10,\t\"\\u0041\\ud83d\\ude00\\/\"] ,\"b\":\x7b\x7d\x7d\n").map pretty
    = some "\x7b\n  \"a\": [\n    -10,\n    \"A😀/\"\n  ],\n  \"b\": \x7b\x7d\n\x7d" := by
  decide +kernel

/-- Different values are printed differently. -/
theorem pretty_injective {json other : Json} (same : json.pretty = other.pretty) : json = other := by
  have read := decode?_pretty json
  rw [same, decode?_pretty] at read
  exact (Option.some.inj read).symm

end ExprLexer.Json
