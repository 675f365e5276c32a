/-!
JSON values and their printed form: two blanks of indentation, one entry a row, and empty lists and
objects on one row.

* `Json.pretty`: the printed form of a value;
* `Json.quote`: a text between double quotes, with quotes, backslashes and controls escaped.
-/

namespace ExprLexer

/-- A JSON value with whole numbers; the fields of an object keep their order. -/
inductive Json
  | text (value : String)
  | number (value : Int)
  | boolean (value : Bool)
  | list (items : List Json)
  | object (fields : List (String × Json))

namespace Json

/-- The escapes of characters that have one of their own. -/
def shortEscape? (c : Char) : Option Char :=
  if c = '"' then some '"'
  else if c = '\\' then some '\\'
  else if c = '\x08' then some 'b'
  else if c = '\x0c' then some 'f'
  else if c = '\n' then some 'n'
  else if c = '\r' then some 'r'
  else if c = '\t' then some 't'
  else none

/-- A character as it stands in a quoted text. -/
def escape (c : Char) : List Char :=
  match shortEscape? c with
  | some letter => ['\\', letter]
  | none =>
    if c.toNat < 0x20 then
      ['\\', 'u', '0', '0', Nat.digitChar (c.toNat / 16), Nat.digitChar (c.toNat % 16)]
    else [c]

/-- A text between double quotes. -/
def quote (value : String) : List Char := '"' :: value.toList.flatMap escape ++ ['"']

/-- The blanks before a row. -/
def margin (depth : Nat) : List Char := List.replicate (2 * depth) ' '

/-- Rows between brackets; no rows at all stay on one row. -/
def enclose (depth : Nat) (opening closing : Char) (rows : List (List Char)) : List Char :=
  match rows with
  | [] => [opening, closing]
  | _ =>
    opening :: '\n' :: List.intercalate [',', '\n'] (rows.map (margin (depth + 1) ++ ·)) ++
      '\n' :: margin depth ++ [closing]

mutual

/-- The printed form of a value that begins in a row of some depth. -/
def layout (depth : Nat) : Json → List Char
  | text value => quote value
  | number value => (toString value).toList
  | boolean value => (if value then "true" else "false").toList
  | list items => enclose depth '[' ']' (layoutItems (depth + 1) items)
  | object fields => enclose depth '\x7b' '\x7d' (layoutFields (depth + 1) fields)

/-- The rows of a list. -/
def layoutItems (depth : Nat) : List Json → List (List Char)
  | [] => []
  | item :: items => layout depth item :: layoutItems depth items

/-- The rows of an object. -/
def layoutFields (depth : Nat) : List (String × Json) → List (List Char)
  | [] => []
  | field :: fields => layoutField depth field :: layoutFields depth fields

/-- The row of a field. -/
def layoutField (depth : Nat) : String × Json → List Char
  | (key, value) => quote key ++ ':' :: ' ' :: layout depth value

end

/-- The printed form of a value. -/
def pretty (json : Json) : String := String.ofList (json.layout 0)

end Json

end ExprLexer
