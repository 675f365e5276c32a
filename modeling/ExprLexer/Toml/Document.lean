import ExprLexer.Toml.Value

/-!
TOML documents: keys with values, and headers that open tables.

* `Statement`: a row of a document;
* `statements?`: the rows of a document;
* `parse?`: the entries of a document.
-/

namespace ExprLexer.Toml

/-- A row of a document. -/
inductive Statement
  | pair (key : KeyPath) (item : Item)
  | table (key : KeyPath)
  | element (key : KeyPath)

/-- A key between brackets that are already open; returns what follows the closing ones. -/
def header? (closing : List Char) : Reader KeyPath := fun chars =>
  match keyPath? chars with
  | none => none
  | some (key, rest) =>
    if closing.isPrefixOf rest then some (key, rest.drop closing.length) else none

/-- A row at the front of some characters, up to the end of the row. -/
def statement? : Reader Statement := fun chars =>
  let read : Option (Statement × List Char) :=
    match chars with
    | '[' :: '[' :: rest =>
      (header? [']', ']'] rest).map fun (key, final) => (.element key, final)
    | '[' :: rest => (header? [']'] rest).map fun (key, final) => (.table key, final)
    | _ =>
      match keyEquals? chars with
      | none => none
      | some (key, start) => (value? start).map fun (item, final) => (.pair key item, final)
  read.bind fun (statement, rest) => (lineEnd? rest).map fun final => (statement, final)

/-- The rows of a document. -/
def statements? (chars : List Char) : Option (List Statement) :=
  match skipTrivia false chars with
  | [] => some []
  | start =>
    match statement? start with
    | none => none
    | some (statement, rest) =>
      if _shorter : rest.length < chars.length then
        (statements? rest).map (statement :: ·)
      else none
termination_by chars.length

/-- The keys up to the next header, and the rows from there on. -/
def splitPairs : List Statement → List (KeyPath × Item) × List Statement
  | .pair key item :: rest => ((key, item) :: (splitPairs rest).1, (splitPairs rest).2)
  | statements => ([], statements)

theorem length_splitPairs (statements : List Statement) :
    (splitPairs statements).2.length ≤ statements.length := by
  fun_induction splitPairs statements with
  | case1 key item rest ih => exact Nat.le_succ_of_le ih
  | case2 => exact Nat.le_refl _

/-- Enters the tables of all headers. -/
def enterHeaders (entries : Entries) (statements : List Statement) : Option Entries :=
  match statements with
  | [] => some entries
  | .pair key item :: rest => (Item.putKey entries key item).bind (enterHeaders · rest)
  | .table key :: rest =>
    (Item.putTable entries key (splitPairs rest).1).bind (enterHeaders · (splitPairs rest).2)
  | .element key :: rest =>
    (Item.putElement entries key (splitPairs rest).1).bind (enterHeaders · (splitPairs rest).2)
termination_by statements.length
decreasing_by
  · simp
  all_goals
    have shorter := length_splitPairs rest
    simp only [List.length_cons]
    omega

/-- Drops the byte order mark that a text may begin with. -/
def dropByteOrderMark : List Char → List Char
  | '\ufeff' :: rest => rest
  | chars => chars

/-- The entries of a document, or nothing if it is not well formed. -/
def parse? (text : String) : Option Entries :=
  (statements? (dropByteOrderMark text.toList)).bind (enterHeaders [])

end ExprLexer.Toml
