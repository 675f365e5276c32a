import ExprLexer.CommandLine.Run

/-!
The program: a run that prints.

* `Console`: printing, whatever carries it out;
* `carryOut`: carries out a command, and prints what comes of it;
* `program`: the whole program, from arguments to an exit code.

A command prints once, when nothing is left that can fail.  Its failure is printed by the program.
-/

namespace ExprLexer.CommandLine

/-- Printing, carried out in `m`. -/
class Console (m : Type → Type) where
  print : String → m Unit
  printError : String → m Unit

variable {m : Type → Type} [Monad m] [FileAccess m] [Console m]

/-- Carries out a command, and prints what comes of it. -/
def carryOut (settings : Settings) : Command → m (Except Failure Unit)
  | .tokens input output => do
    match ← input.read with
    | .error failure => return .error failure
    | .ok text =>
      match tokensOutput (rendering output settings) settings.maxTokens text with
      | .error failure => return .error failure
      | .ok printed =>
        Console.print (printed ++ "\n")
        return .ok ()
  | .peek count text output => do
    match aheadOutput (rendering output settings) settings.maxTokens count text with
    | .error failure => return .error failure
    | .ok printed =>
      if !printed.isEmpty then Console.print (printed ++ "\n")
      return .ok ()
  | .config (some name) => settings.save name
  | .config none => do
    match settings.document with
    | .error error => return .error (.settings error)
    | .ok document =>
      Console.print document
      return .ok ()

/-- Carries out what the program is asked to do: the settings first, then the command. -/
def carryOutWith (homes : Settings.Homes) (invocation : Invocation) : m (Except Failure Unit) := do
  match ← Settings.select homes invocation.config with
  | .error failure => return .error failure
  | .ok settings => carryOut settings invocation.command

/-- Prints what a stop shows. -/
def halt : StopAt → m ExitCode
  | (.misuse, _) => do
    Console.printError usage
    return .misuse
  | (.help, _) => do
    Console.print usage
    return .success
  | (.version, command) => do
    Console.print (versionRow command)
    return .success

/-- The whole program. -/
def program (environment : Environment) (arguments : List String) : m ExitCode := do
  match Invocation.parse environment arguments with
  | .error stop => halt stop
  | .ok invocation =>
    match ← carryOutWith environment.homes invocation with
    | .ok _ => return .success
    | .error failure =>
      Console.printError (failure.message ++ "\n")
      return .failure

end ExprLexer.CommandLine
