/-!
What a TOML document holds, and how keys and headers fill its tables.

A table comes from a header, from the path of a longer header, or from a dotted key.  A dotted key
never reaches into a table that has its own header, and nothing reaches into a value.

* `Item`: values, tables and lists of tables;
* `Item.within`: changes the table at the end of a path, and makes the tables on the way;
* `Item.putKey`: enters a key, which must be new;
* `Item.putTable`, `Item.putElement`: enter the table of a header.
-/

namespace ExprLexer.Toml

/-- How a table came about. -/
inductive Origin
  /-- By a header of its own, or as the document itself. -/
  | header
  /-- As a step in the path of a header. -/
  | implied
  /-- As a step in a dotted key. -/
  | dotted
deriving DecidableEq

/-- What stands under a key.  Numbers that are not whole and dates are kept as written. -/
inductive Item
  | string (text : String)
  | integer (value : Int)
  | float (spelling : String)
  | boolean (value : Bool)
  | dateTime (spelling : String)
  | array (items : List Item)
  /-- A table between braces, which is complete as it stands. -/
  | inline (entries : List (String × Item))
  | table (origin : Origin) (entries : List (String × Item))
  | tables (elements : List (List (String × Item)))

/-- The keys of a table with what stands under them, in order. -/
abbrev Entries := List (String × Item)

/-- A key with dots: the names before the last, and the last. -/
structure KeyPath where
  parents : List String
  name : String
deriving DecidableEq

namespace Item

/-- Puts something new under a key that is there already. -/
def replace (entries : Entries) (key : String) (item : Item) : Entries :=
  entries.map fun entry => if entry.1 = key then (key, item) else entry

/-- Changes the table at the end of a path; `origin` is that of the table the path begins in.
Tables missing on the way are made; a list of tables stands for its last one.  With `dotted`, the
path comes from a dotted key. -/
def within (dotted : Bool) (change : Origin → Entries → Option Entries) :
    Origin → List String → Entries → Option Entries
  | origin, [], entries => change origin entries
  | _, name :: path, entries =>
    match entries.lookup name with
    | none =>
      let origin := if dotted then .dotted else .implied
      (within dotted change origin path []).map fun inner =>
        entries ++ [(name, .table origin inner)]
    | some (.table origin inner) =>
      if dotted && origin = .header then none
      else (within dotted change origin path inner).map fun inner =>
        replace entries name (.table origin inner)
    | some (.tables elements) =>
      (elements.getLast?.bind (within dotted change .header path)).map fun inner =>
        replace entries name (.tables (elements.dropLast ++ [inner]))
    | some _ => none

/-- Enters a key, which must be new.  A dotted key ends in a table of dotted keys, a plain one in
any other. -/
def putKey (entries : Entries) (key : KeyPath) (item : Item) : Option Entries :=
  let put (origin : Origin) (inner : Entries) : Option Entries :=
    if decide (origin = .dotted) = key.parents.isEmpty then none
    else if (inner.lookup key.name).isSome then none
    else some (inner ++ [(key.name, item)])
  within true put .header key.parents entries

/-- Enters keys in order. -/
def putKeys (entries : Entries) (keys : List (KeyPath × Item)) : Option Entries :=
  keys.foldlM (fun entries (key, item) => putKey entries key item) entries

/-- Enters the table of a header.  It may have been a step in the path of a header before, but have
no header yet. -/
def putTable (entries : Entries) (key : KeyPath) (keys : List (KeyPath × Item)) : Option Entries :=
  let put (_ : Origin) (inner : Entries) : Option Entries :=
    let build (old : Entries) : Option Entries :=
      (putKeys old keys).map fun built =>
        inner.filter (·.1 ≠ key.name) ++ [(key.name, .table .header built)]
    match inner.lookup key.name with
    | none => build []
    | some (.table .implied old) => build old
    | some _ => none
  within false put .header key.parents entries

/-- Enters one more table of a list of tables. -/
def putElement (entries : Entries) (key : KeyPath) (keys : List (KeyPath × Item)) :
    Option Entries :=
  let put (_ : Origin) (inner : Entries) : Option Entries :=
    match inner.lookup key.name with
    | none => (putKeys [] keys).map fun built => inner ++ [(key.name, .tables [built])]
    | some (.tables elements) =>
      (putKeys [] keys).map fun built => replace inner key.name (.tables (elements ++ [built]))
    | some _ => none
  within false put .header key.parents entries

end Item

end ExprLexer.Toml
