import ExprLexer.Toml.Scalar

/-!
Keys and values in a TOML document.

Values between brackets and braces hold values; they may nest up to a depth, and keys may have as
many parts.

* `maxDepth`: how deep values nest;
* `keyPath?`: a key, with dots or without;
* `value?`: a value.
-/

namespace ExprLexer.Toml

/-- How deep values between brackets and braces may nest, and how many parts a key may have. -/
def maxDepth : Nat := 79

/-! ### Keys -/

/-- The names of a key, with blanks around them and dots between them. -/
def keyNames? (chars : List Char) : Option (List String × List Char) :=
  match keyName? (skipBlanks chars) with
  | none => none
  | some (name, after) =>
    match skipBlanks after with
    | '.' :: rest =>
      if _shorter : rest.length < chars.length then
        (keyNames? rest).map fun (names, final) => (name :: names, final)
      else none
    | rest => some ([name], rest)
termination_by chars.length

/-- A key with the blanks around it. -/
def keyPath? : Reader KeyPath := fun chars =>
  match keyNames? chars with
  | none => none
  | some (names, rest) =>
    if names.length ≤ maxDepth then
      names.getLast?.map fun name => (⟨names.dropLast, name⟩, rest)
    else none

/-- A key and the equals sign behind it. -/
def keyEquals? : Reader KeyPath := fun chars =>
  match keyPath? chars with
  | some (key, '=' :: rest) => some (key, skipBlanks rest)
  | _ => none

/-! ### Values -/

/-- The values of a list behind its opening bracket, with commas between them; one more comma may
follow the last. -/
def arrayItems? (value : Reader Item) (chars : List Char) : Option (List Item × List Char) :=
  match skipTrivia false chars with
  | ']' :: rest => some ([], rest)
  | start =>
    match value start with
    | none => none
    | some (item, after) =>
      match skipTrivia false after with
      | ']' :: rest => some ([item], rest)
      | ',' :: rest =>
        if _shorter : rest.length < chars.length then
          (arrayItems? value rest).map fun (items, final) => (item :: items, final)
        else none
      | _ => none
termination_by chars.length

/-- The keys and values of a table behind its opening brace or a comma, in one row. -/
def inlineKeys? (value : Reader Item) (chars : List Char) :
    Option (List (KeyPath × Item) × List Char) :=
  match keyEquals? chars with
  | none => none
  | some (key, start) =>
    match value start with
    | none => none
    | some (item, after) =>
      match skipBlanks after with
      | '\x7d' :: rest => some ([(key, item)], rest)
      | ',' :: rest =>
        if _shorter : rest.length < chars.length then
          (inlineKeys? value rest).map fun (keys, final) => ((key, item) :: keys, final)
        else none
      | _ => none
termination_by chars.length

/-- A table behind its opening brace. -/
def inlineTable? (value : Reader Item) : Reader Item := fun chars =>
  match skipBlanks chars with
  | '\x7d' :: rest => some (.inline [], rest)
  | start =>
    match inlineKeys? value start with
    | none => none
    | some (keys, rest) => (Item.putKeys [] keys).map fun entries => (.inline entries, rest)

/-- A value in which others nest up to some depth. -/
def valueTo? : Nat → Reader Item
  | depth, chars =>
    match chars, depth with
    | '"' :: _, _ | '\'' :: _, _ =>
      (quoted? chars).map fun (text, rest) => (.string (String.ofList text), rest)
    | '[' :: rest, depth + 1 =>
      (arrayItems? (valueTo? depth) rest).map fun (items, final) => (.array items, final)
    | '\x7b' :: rest, depth + 1 => inlineTable? (valueTo? depth) rest
    | _, _ => scalar? chars

/-- A value. -/
def value? : Reader Item := valueTo? maxDepth

end ExprLexer.Toml
