import ExprLexer.CommandLine.Arguments
import ExprLexer.Inspection
import ExprLexer.Settings

/-!
What a run of the program is asked to do.

Some options may be given before the command or behind it; behind it they count more.  Where they
are not given, variables of the environment stand in for them, and such a variable must make sense
wherever its option is missing.

* `Invocation`: the command with its options;
* `Invocation.parse`: reads it off the arguments and the environment.
-/

namespace ExprLexer.CommandLine

/-- How the options of a command ask for tokens to be printed. -/
structure OutputOptions where
  format : Option OutputFormat
  positions : Bool
deriving DecidableEq

/-- The commands. -/
inductive Command
  | tokens (input : Input) (output : OutputOptions)
  | peek (count : Nat) (text : String) (output : OutputOptions)
  /-- Print the settings, or save them to a file. -/
  | config (save : Option String)
deriving DecidableEq

/-- A command with the options that go with all of them. -/
structure Invocation where
  verbose : Bool
  noColor : Bool
  config : Option String
  command : Command
deriving DecidableEq

/-- The variables of the environment that matter. -/
structure Environment where
  /-- Stands in for the option `--config`. -/
  config : Option String
  /-- Stands in for the option `--verbose`. -/
  verbose : Option String
  /-- Stands in for the option `--no-color`. -/
  noColor : Option String
  homes : Settings.Homes

/-! ### What may be given -/

/-- The options that go with all commands. -/
def commonOptions : List OptionForm :=
  [⟨.verbose, "verbose", some 'v', false⟩, ⟨.config, "config", some 'c', true⟩,
    ⟨.noColor, "no-color", none, false⟩, ⟨.help, "help", some 'h', false⟩,
    ⟨.version, "version", some 'V', false⟩]

/-- The options that say what to look at and how to print it. -/
def inspectionOptions : List OptionForm :=
  [⟨.expr, "expr", some 'e', true⟩, ⟨.format, "format", some 'F', true⟩,
    ⟨.positions, "positions", some 'p', false⟩]

/-- The values that options accept: paths are not empty, and formats are known. -/
def accepts (name : OptionName) (value : String) : Bool :=
  match name with
  | .config | .save => !value.isEmpty
  | .format => (OutputFormat.ofName? value).isSome
  | _ => true

/-- A count, written in digits behind an optional plus sign; it has 64 bits. -/
def count? (text : String) : Option Nat :=
  let digits :=
    match text.toList with
    | '+' :: rest => rest
    | chars => chars
  (Numeral.digits? digits).filter (· < UInt64.size)

/-- The arguments before the command. -/
def programLevel : Level :=
  ⟨commonOptions, 0, ["tokens", "peek", "config", "help"], accepts, fun _ => false⟩

/-- The arguments of `tokens`. -/
def tokensLevel : Level :=
  ⟨commonOptions ++ inspectionOptions, 1, [], accepts, fun name => !name.isEmpty⟩

/-- The arguments of `peek`. -/
def peekLevel : Level :=
  ⟨commonOptions ++ inspectionOptions, 1, [], accepts, fun text => (count? text).isSome⟩

/-- The arguments of `config`. -/
def configLevel : Level :=
  ⟨commonOptions ++ [⟨.save, "save", none, true⟩], 0, [], accepts, fun _ => false⟩

/-! ### Reading -/

namespace Environment

/-- Whether a variable that stands in for a flag makes sense: it is missing, or a truth value. -/
def isTruth : Option String → Bool
  | none => true
  | some value => value == "true" || value == "false"

/-- Whether the variables make sense, those aside whose options were given. -/
def isUsable (environment : Environment) (given : Given) : Bool :=
  (given.has .verbose || isTruth environment.verbose) &&
    (given.has .config || environment.config.all (!·.isEmpty)) &&
    (given.has .noColor || isTruth environment.noColor)

end Environment

/-- Ends the reading of a level: the last option is checked, and the environment. -/
def Level.finish (level : Level) (environment : Environment) (given : Given) :
    Except Stop Given := do
  let given ← level.settle given
  if environment.isUsable given then .ok given else .error .misuse

/-- How the options of a command ask for tokens to be printed. -/
def outputOptions (given : Given) : OutputOptions :=
  ⟨(given.value? .format).bind OutputFormat.ofName?, given.has .positions⟩

/-- The command `tokens`: a text or a file, just one of them. -/
def tokensCommand (given : Given) : Except Stop Command :=
  match given.value? .expr, given.operands with
  | some text, [] => .ok (.tokens (.expression text) (outputOptions given))
  | none, [name] => .ok (.tokens (.file name) (outputOptions given))
  | _, _ => .error .misuse

/-- The command `peek`: a count and a text. -/
def peekCommand (given : Given) : Except Stop Command :=
  match given.value? .expr, given.operands.filterMap count? with
  | some text, [count] => .ok (.peek count text (outputOptions given))
  | _, _ => .error .misuse

/-- The command `config`. -/
def configCommand (given : Given) : Except Stop Command := .ok (.config (given.value? .save))

/-- A stop, with the command it happened in. -/
abbrev StopAt := Stop × Option String

/-- Whether a flag holds: given before the command or behind it, or true in the environment. -/
def flag (before behind : Given) (name : OptionName) (standIn : Option String) : Bool :=
  before.has name || behind.has name || standIn == some "true"

/-- The arguments of a command. -/
def parseCommand (environment : Environment) (before : Given) (name : String) (level : Level)
    (command : Given → Except Stop Command) (arguments : List String) :
    Except StopAt Invocation := do
  let inside {α : Type} (outcome : Except Stop α) : Except StopAt α :=
    outcome.mapError fun stop => (stop, some name)
  let outside {α : Type} (outcome : Except Stop α) : Except StopAt α :=
    outcome.mapError fun stop => (stop, none)
  let (behind, _) ← inside (level.read {} arguments)
  let behind ← inside (level.finish environment behind)
  let command ← inside (command behind)
  let before ← outside (programLevel.finish environment before)
  return {
    verbose := flag before behind .verbose environment.verbose
    noColor := flag before behind .noColor environment.noColor
    config := behind.value? .config <|> before.value? .config <|> environment.config
    command := command }

/-- The command `help`: at most the name of a command follows it. -/
def parseHelp : List String → StopAt
  | [] => (.help, none)
  | [name] => if programLevel.commands.contains name then (.help, none) else (.misuse, none)
  | _ => (.misuse, none)

/-- What the arguments ask for. -/
def Invocation.parse (environment : Environment) (arguments : List String) :
    Except StopAt Invocation :=
  match programLevel.read {} arguments with
  | .error stop => .error (stop, none)
  | .ok (_, none) => .error (.misuse, none)
  | .ok (before, some (name, rest)) =>
    match name with
    | "tokens" => parseCommand environment before name tokensLevel tokensCommand rest
    | "peek" => parseCommand environment before name peekLevel peekCommand rest
    | "config" => parseCommand environment before name configLevel configCommand rest
    | _ => .error (parseHelp rest)

end ExprLexer.CommandLine
