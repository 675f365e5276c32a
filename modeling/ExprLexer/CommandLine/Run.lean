import ExprLexer.CommandLine.Invocation

/-!
A run of the program: from arguments to an exit code and what is printed.

Everything is checked before anything is printed, so a run that fails prints nothing but why.

* `execute`: carries out a command;
* `run`: a whole run.

Left out are log lines, the help of each single command and the wording of what is wrong with
arguments: a stop shows the description of the program.
-/

namespace ExprLexer.CommandLine

/-- How a run ends. -/
inductive ExitCode
  | success
  | failure
  /-- The arguments are not as they should be. -/
  | misuse
deriving DecidableEq

/-- The number of an exit code. -/
def ExitCode.number : ExitCode → Nat
  | success => 0
  | failure => 1
  | misuse => 2

/-- What a run shows: how it ends and what it prints.  Log lines, which carry times, are no part of it. -/
structure Outcome where
  exit : ExitCode
  output : String
  error : String
deriving DecidableEq

/-- The name of the program. -/
def programName : String := "calxt"

/-- The version of the program. -/
def version : String := "0.1.0"

/-- A short description of the program. -/
def usage : String :=
  "Tokenize calx expressions\n\nUsage: calxt [OPTIONS] <COMMAND>\n\nCommands:\n" ++
    "  tokens [FILE]  Print every token of a file or of --expr\n" ++
    "  peek <COUNT>   Look ahead at the first tokens of --expr\n" ++
    "  config         Show or save the effective configuration\n"

/-- The row that names the version, of the program or of a command. -/
def versionRow : Option String → String
  | none => programName ++ " " ++ version ++ "\n"
  | some command => programName ++ "-" ++ command ++ " " ++ version ++ "\n"

/-- What a stop shows. -/
def stopped : StopAt → Outcome
  | (.misuse, _) => ⟨.misuse, "", usage⟩
  | (.help, _) => ⟨.success, usage, ""⟩
  | (.version, command) => ⟨.success, versionRow command, ""⟩

/-- How tokens are printed: the options count, and the settings where they say nothing. -/
def rendering (output : OutputOptions) (settings : Settings) : Rendering :=
  ⟨output.format.getD settings.format, output.positions || settings.positions⟩

/-- Tokens ahead with a newline; nothing at all stays nothing. -/
def withNewline (text : String) : String := if text.isEmpty then "" else text ++ "\n"

section Commands

variable {m : Type → Type} [Monad m] [FileAccess m]

/-- Carries out a command; returns what it prints. -/
def execute (settings : Settings) : Command → m (Except Failure String)
  | .tokens input output => do
    let text ← input.read
    return do
      let printed ← tokensOutput (rendering output settings) settings.maxTokens (← text)
      return printed ++ "\n"
  | .peek count text output =>
    return (aheadOutput (rendering output settings) settings.maxTokens count text).map withNewline
  | .config (some name) => do
    let saved ← settings.save name
    return saved.map fun _ => ""
  | .config none => return settings.document.mapError .settings

/-- Carries out what a run is asked to do: the settings first, then the command. -/
def perform (homes : Settings.Homes) (invocation : Invocation) : m (Except Failure String) := do
  match ← Settings.select homes invocation.config with
  | .error failure => return .error failure
  | .ok settings => execute settings invocation.command

/-- What a command shows. -/
def finished : Except Failure String → Outcome
  | .ok printed => ⟨.success, printed, ""⟩
  | .error failure => ⟨.failure, "", failure.message ++ "\n"⟩

/-- A whole run. -/
def run (environment : Environment) (arguments : List String) : m Outcome :=
  match Invocation.parse environment arguments with
  | .error stop => return stopped stop
  | .ok invocation => finished <$> perform environment.homes invocation

end Commands

end ExprLexer.CommandLine
