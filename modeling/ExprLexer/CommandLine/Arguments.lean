/-!
Reading a row of arguments: options, their values, operands and commands.

An option has a long form and maybe a short one.  Its value follows it, either attached or as the
next argument; short options without values join up.  After `--` everything is an operand.  An
option is given at most once.

* `Level`: the options, operands and commands that may be given at some place of the row;
* `Level.read`: reads the arguments of a level, up to a command;
* `Stop`: why reading stops early.
-/

namespace ExprLexer.CommandLine

/-- The options. -/
inductive OptionName
  | verbose
  | config
  | noColor
  | help
  | version
  | expr
  | format
  | positions
  | save
deriving DecidableEq

/-- How an option is written. -/
structure OptionForm where
  name : OptionName
  /-- The long form, without its dashes. -/
  long : String
  /-- The short form, without its dash. -/
  short : Option Char
  takesValue : Bool

/-- What may be given at some place of the row. -/
structure Level where
  options : List OptionForm
  operands : Nat
  /-- The commands that end the level. -/
  commands : List String
  accepts : OptionName → String → Bool
  acceptsOperand : String → Bool

/-- Why reading stops before the end. -/
inductive Stop
  /-- The arguments are not as they should be. -/
  | misuse
  | help
  | version
deriving DecidableEq

/-- What was read of a level. -/
structure Given where
  /-- The options with their values, the latest first. -/
  options : List (OptionName × String) := []
  operands : List String := []
  /-- An option whose value is not checked yet: that is done when something else is read. -/
  unchecked : Option (OptionName × String) := none

namespace Given

/-- Whether an option was given. -/
def has (given : Given) (name : OptionName) : Bool := (given.options.lookup name).isSome

/-- The value of an option. -/
def value? (given : Given) (name : OptionName) : Option String := given.options.lookup name

end Given

namespace Level

/-- Enters an option, which must be new and have a value it accepts. -/
def enter (level : Level) (given : Given) (name : OptionName) (value : String) :
    Except Stop Given :=
  if given.has name || !level.accepts name value then .error .misuse
  else .ok { given with options := (name, value) :: given.options }

/-- Checks and enters the option left unchecked. -/
def settle (level : Level) (given : Given) : Except Stop Given :=
  match given.unchecked with
  | none => .ok given
  | some (name, value) => level.enter { given with unchecked := none } name value

/-- Enters an option with its value attached. -/
def enterValue (level : Level) (given : Given) (name : OptionName) (value : String) :
    Except Stop Given := do
  level.enter (← level.settle given) name value

/-- Enters an option without a value; two of them stop the reading. -/
def enterFlag (level : Level) (given : Given) (name : OptionName) : Except Stop Given := do
  let given ← level.settle given
  match name with
  | .help => .error .help
  | .version => .error .version
  | _ => level.enter given name ""

/-- Enters an operand. -/
def enterOperand (level : Level) (given : Given) (operand : String) : Except Stop Given := do
  let given ← level.settle given
  if given.operands.length < level.operands && level.acceptsOperand operand then
    .ok { given with operands := given.operands ++ [operand] }
  else .error .misuse

/-- Whether an argument is read as an option: it begins with a dash and is not a dash alone. -/
def looksLikeOption (argument : String) : Bool :=
  match argument.toList with
  | '-' :: _ :: _ => true
  | _ => false

/-- An option whose value is still to come, if there is one, and what was read. -/
abbrev Progress := Given × Option OptionName

/-- A long option behind its dashes. -/
def readLong (level : Level) (given : Given) (chars : List Char) : Except Stop Progress := do
  let long := String.ofList (chars.takeWhile (· != '='))
  match level.options.find? (·.long == long), chars.dropWhile (· != '=') with
  | some form, [] =>
    if form.takesValue then return (← level.settle given, some form.name)
    else return (← level.enterFlag given form.name, none)
  | some form, _ :: value =>
    if form.takesValue then
      return (← level.enterValue given form.name (String.ofList value), none)
    else .error .misuse
  | none, _ => .error .misuse

/-- A value attached to a short option, where an equals sign in front does not count. -/
def attached : List Char → List Char
  | '=' :: value => value
  | value => value

/-- Short options behind their dash, joined up. -/
def readShort (level : Level) (given : Given) : List Char → Except Stop Progress
  | [] => .ok (given, none)
  | c :: rest =>
    match level.options.find? (·.short == some c) with
    | none => .error .misuse
    | some form =>
      if form.takesValue then
        match rest with
        | [] => do return (← level.settle given, some form.name)
        | value => do
          return (← level.enterValue given form.name (String.ofList (attached value)), none)
      else do readShort level (← level.enterFlag given form.name) rest

/-- An argument that looks like an option. -/
def readOption (level : Level) (given : Given) (argument : String) : Except Stop Progress :=
  match argument.toList with
  | '-' :: '-' :: chars => level.readLong given chars
  | chars => level.readShort given (chars.drop 1)

/-- Reads the arguments of a level, up to a command; returns the command with what follows it. -/
def read (level : Level) (given : Given) :
    List String → Except Stop (Given × Option (String × List String))
  | [] => .ok (given, none)
  | argument :: rest =>
    if level.commands.contains argument then .ok (given, some (argument, rest))
    else if argument = "--" then do return (← rest.foldlM level.enterOperand given, none)
    else if looksLikeOption argument then
      match level.readOption given argument, rest with
      | .error stop, _ => .error stop
      | .ok (given, none), rest => level.read given rest
      | .ok (_, some _), [] => .error .misuse
      | .ok (given, some name), value :: rest =>
        if looksLikeOption value then .error .misuse
        else level.read { given with unchecked := some (name, value) } rest
    else
      match level.enterOperand given argument with
      | .error stop => .error stop
      | .ok given => level.read given rest

end Level

end ExprLexer.CommandLine
