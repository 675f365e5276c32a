import ExprLexer.Failure
import ExprLexer.Files.Access
import ExprLexer.Rendering
import ExprLexer.Toml.Document

/-!
The settings of a run, and the document that keeps them.

* `Settings.ofEntries`: the settings that a document holds; missing keys have their defaults, and
  other keys do not matter;
* `Settings.parse`: reads and checks a document;
* `Settings.document`: writes one;
* `Settings.load`, `Settings.save`: from a file and to a file;
* `Settings.discover`: the first file there is among the usual ones.

Left out is where in a document a fault stands: a message says that there is one, and of which kind.
-/

namespace ExprLexer

/-- The settings of a run. -/
structure Settings where
  format : OutputFormat := .plain
  /-- Whether plain rows begin with the position. -/
  positions : Bool := false
  maxTokens : Nat := 10000
deriving DecidableEq

namespace Settings

open Toml (Item Entries)

/-! ### Reading -/

/-- Whether something holds nothing. -/
def holdsNothing : Item → Bool
  | .array items => items.isEmpty
  | .inline entries | .table _ entries => entries.isEmpty
  | .tables elements => elements.isEmpty
  | _ => false

/-- The format that a table with one empty entry names. -/
def formatOfEntries? : Entries → Option OutputFormat
  | [(name, item)] => if holdsNothing item then OutputFormat.ofName? name else none
  | _ => none

/-- A format: its name, or a table with one empty entry of that name. -/
def format? : Item → Option OutputFormat
  | .string name => OutputFormat.ofName? name
  | .inline entries | .table _ entries => formatOfEntries? entries
  | _ => none

/-- A truth value. -/
def boolean? : Item → Option Bool
  | .boolean value => some value
  | _ => none

/-- A whole number that is not negative. -/
def natural? : Item → Option Nat
  | .integer value => if 0 ≤ value then some value.toNat else none
  | _ => none

/-- The value of a key, or its default where the key is missing. -/
def keyOr {α : Type} (entries : Entries) (key : String) (missing : α) (decode? : Item → Option α) :
    Option α :=
  match entries.lookup key with
  | none => some missing
  | some item => decode? item

/-- The settings that a document holds. -/
def ofEntries? (entries : Entries) : Option Settings := do
  let standard : Settings := {}
  let format ← keyOr entries "format" standard.format format?
  let positions ← keyOr entries "positions" standard.positions boolean?
  let maxTokens ← keyOr entries "max_tokens" standard.maxTokens natural?
  return { format, positions, maxTokens }

/-- The settings must allow at least one token. -/
def check (settings : Settings) : Except SettingsError Settings :=
  if settings.maxTokens = 0 then .error .noTokens else .ok settings

/-- Reads and checks a document. -/
def parse (text : String) : Except SettingsError Settings :=
  match Toml.parse? text with
  | none => .error (.malformed "not a TOML document")
  | some entries =>
    match ofEntries? entries with
    | none => .error (.malformed "a value of the wrong kind")
    | some settings => settings.check

/-! ### Writing -/

/-- The document of some settings.  Whole numbers in a document have 63 bits. -/
def document (settings : Settings) : Except SettingsError String :=
  if Toml.largestInteger < settings.maxTokens then .error (.unwritable "a number out of range")
  else
    .ok <| "format = \"" ++ settings.format.name ++ "\"\npositions = " ++
      (if settings.positions then "true" else "false") ++ "\nmax_tokens = " ++
      toString settings.maxTokens ++ "\n"

/-! ### Files -/

section Files

variable {m : Type → Type} [Monad m] [FileAccess m]

/-- Loads the settings from a file, shown in messages as `name`. -/
def loadFrom (path : Path) (name : String) : m (Except Failure Settings) := do
  if ← FileAccess.pathExists path then
    match ← readText path with
    | .error error => return .error (.input error)
    | .ok text => return (parse text).mapError .settings
  else return .error (.settings (.notFound name))

/-- Loads the settings from a file. -/
def load (name : String) : m (Except Failure Settings) := loadFrom (Path.ofString name) name

/-- Saves the settings to a file.  The directories above it are made first, then the document. -/
def save (settings : Settings) (name : String) : m (Except Failure Unit) := do
  let path := Path.ofString name
  let above : Except FileError Unit ←
    match path.parent? with
    | some parent => ensureDirectory parent
    | none => pure (.ok ())
  match above with
  | .error error => return .error (.input error)
  | .ok _ =>
    match settings.document with
    | .error error => return .error (.settings error)
    | .ok text => return (← FileAccess.writeText path text).mapError .input

/-- The name of the file that keeps settings. -/
def fileName : String := "calxt.toml"

/-- The directories that a user's settings may be kept in. -/
structure Homes where
  home : Option String
  /-- The directory for settings, where it is not the usual one below the home directory. -/
  settings : Option String

/-- The usual files: here, in the home directory, and in the directory for settings, which counts
only if it is an absolute path. -/
def candidates (homes : Homes) : List Path :=
  let home := (homes.home.map Path.ofString).filter (!·.isEmpty)
  let usual := home.map (·.join [".config"])
  let chosen := (homes.settings.map Path.ofString).filter (·.absolute)
  let below (directory : Path) : Path := directory.join ["calxt", fileName]
  Path.ofString fileName :: (usual.map below).toList ++ ((chosen <|> usual).map below).toList

/-- The first file there is. -/
def discover : List Path → m (Option Path)
  | [] => return none
  | path :: later => do
    if ← FileAccess.pathExists path then return some path else discover later

/-- Loads the settings from the file named, or else from the first usual file there is; without
any, they are the defaults. -/
def select (homes : Homes) : Option String → m (Except Failure Settings)
  | some name => load name
  | none => do
    match ← discover (candidates homes) with
    | some path => loadFrom path path.text
    | none => return .ok {}

end Files

end Settings

end ExprLexer
