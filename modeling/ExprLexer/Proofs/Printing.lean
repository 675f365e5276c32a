import ExprLexer.CommandLine.Program
import ExprLexer.Proofs.AllOrNothing
import ExprLexer.Proofs.Lifting

/-!
What the program prints, and when.

* `Outcome.display`: prints what a run shows;
* `program_eq`: **the program is a run, and then the display of what it shows**, in every monad in which
  printing nothing does nothing;
* `program_prints_last`: **printing is its last step**, as a run can be carried out in a monad that cannot
  print;
* `Screen`: what was printed, kept beside what else there is;
* `run_program`: **the program adds to the screen what the run shows**, and does nothing else that the run
  does not do;
* `program_silent`: a program that fails adds nothing to the output, and one that does not fail nothing
  to the errors.

A command prints in the midst of its own code, as soon as it has something to print.  The equation moves
each of these prints to the end of the program.
-/

namespace ExprLexer.CommandLine

/-- Printing nothing does nothing. -/
class LawfulConsole (m : Type → Type) [Monad m] [Console m] : Prop where
  print_empty : (Console.print "" : m Unit) = pure ()
  printError_empty : (Console.printError "" : m Unit) = pure ()

section Display

variable {m : Type → Type} [Monad m] [Console m]

/-- Prints what a run shows. -/
def Outcome.display (outcome : Outcome) : m ExitCode := do
  Console.print outcome.output
  Console.printError outcome.error
  return outcome.exit

/-- Prints what came of a command, unless it failed. -/
def printResult : Except Failure String → m (Except Failure Unit)
  | .error failure => return .error failure
  | .ok text => do
    Console.print text
    return .ok ()

variable [LawfulMonad m] [LawfulConsole m]

theorem halt_eq (stop : StopAt) : (halt stop : m _) = (stopped stop).display := by
  obtain ⟨stop, command⟩ := stop
  cases stop with
  | misuse => rw [halt, stopped, Outcome.display, LawfulConsole.print_empty, pure_bind]
  | help => rw [halt, stopped, Outcome.display, LawfulConsole.printError_empty, pure_bind]
  | version => rw [halt, stopped, Outcome.display, LawfulConsole.printError_empty, pure_bind]

theorem printResult_withNewline (text : String) :
    (printResult (.ok (withNewline text)) : m _) = do
      if !text.isEmpty then Console.print (text ++ "\n")
      return .ok () := by
  rw [printResult, withNewline]
  cases text.isEmpty with
  | true => simp [LawfulConsole.print_empty]
  | false => simp

end Display

section Program

variable {m : Type → Type} [Monad m] [LawfulMonad m] [FileAccess m] [Console m] [LawfulConsole m]

/-- A command is carried out, and then prints what came of it. -/
theorem carryOut_eq (settings : Settings) (command : Command) :
    (carryOut settings command : m _) = execute settings command >>= printResult := by
  cases command with
  | tokens input output =>
    rw [carryOut, execute, bind_assoc]
    refine bind_congr fun read => ?_
    rw [pure_bind]
    cases read with
    | error failure => rfl
    | ok text =>
      dsimp only
      show _ = printResult ((tokensOutput _ _ text).bind fun printed => .ok (printed ++ "\n"))
      cases tokensOutput (rendering output settings) settings.maxTokens text <;> rfl
  | peek count text output =>
    rw [carryOut, execute, pure_bind]
    cases aheadOutput (rendering output settings) settings.maxTokens count text with
    | error failure => rfl
    | ok printed => exact (printResult_withNewline printed).symm
  | config save =>
    cases save with
    | none =>
      rw [carryOut, execute, pure_bind]
      cases settings.document <;> rfl
    | some name =>
      rw [carryOut, execute, bind_assoc]
      refine (bind_pure _).symm.trans (bind_congr fun saved => ?_)
      rw [pure_bind]
      cases saved with
      | error failure => rfl
      | ok _ =>
        show _ = printResult (.ok "")
        rw [printResult, LawfulConsole.print_empty, pure_bind]

theorem carryOutWith_eq (homes : Settings.Homes) (invocation : Invocation) :
    (carryOutWith homes invocation : m _) = perform homes invocation >>= printResult := by
  rw [carryOutWith, perform, bind_assoc]
  refine bind_congr fun settings => ?_
  cases settings with
  | error failure =>
    dsimp only
    rw [pure_bind]
    rfl
  | ok settings => exact carryOut_eq settings invocation.command

/-- **The program is a run, and then the display of what it shows.** -/
theorem program_eq (environment : Environment) (arguments : List String) :
    (program environment arguments : m _) = run environment arguments >>= Outcome.display := by
  rw [program, run]
  cases Invocation.parse environment arguments with
  | error stop =>
    dsimp only
    rw [halt_eq, pure_bind]
  | ok invocation =>
    dsimp only
    rw [carryOutWith_eq, bind_assoc, bind_map_left]
    refine bind_congr fun result => ?_
    cases result with
    | error failure =>
      rw [printResult, pure_bind, finished, Outcome.display, LawfulConsole.print_empty, pure_bind]
    | ok text =>
      rw [printResult, bind_assoc, finished, Outcome.display, LawfulConsole.printError_empty]
      refine bind_congr fun _ => ?_
      rw [pure_bind, pure_bind]

/-- **Printing is the last step**: all that comes before it is done in a monad that need not be able to
print. -/
theorem program_prints_last {k : Type → Type} [Monad k] [LawfulMonad k] [FileAccess k]
    [MonadLiftT k m] [LawfulMonadLiftT k m] [LiftedAccess k m] (environment : Environment)
    (arguments : List String) :
    (program environment arguments : m _)
      = monadLift (run environment arguments : k Outcome) >>= Outcome.display := by
  rw [program_eq, lift_run (m := k)]

end Program

/-! ### Screens -/

/-- What was printed. -/
structure Screen where
  output : String
  error : String

/-- The screen once the outcome of a run is printed. -/
def Screen.displaying (screen : Screen) (outcome : Outcome) : Screen :=
  ⟨screen.output ++ outcome.output, screen.error ++ outcome.error⟩

section Screens

variable {m : Type → Type} [Monad m]

instance : Console (StateT Screen m) where
  print text := modify fun screen => { screen with output := screen.output ++ text }
  printError text := modify fun screen => { screen with error := screen.error ++ text }

variable [LawfulMonad m]

instance : LawfulConsole (StateT Screen m) where
  print_empty := by
    ext screen
    simp [Console.print]
  printError_empty := by
    ext screen
    simp [Console.printError]

theorem run_display (outcome : Outcome) (screen : Screen) :
    (outcome.display : StateT Screen m ExitCode).run screen
      = pure (outcome.exit, screen.displaying outcome) := by
  simp [Outcome.display, Console.print, Console.printError, Screen.displaying]

variable [FileAccess m]

instance : FileAccess (StateT Screen m) where
  pathExists path := monadLift (FileAccess.pathExists path : m _)
  isDirectory path := monadLift (FileAccess.isDirectory path : m _)
  readBytes path := monadLift (FileAccess.readBytes path : m _)
  makeDirectory path := monadLift (FileAccess.makeDirectory path : m _)
  writeText path text := monadLift (FileAccess.writeText path text : m _)
  readInput := monadLift (FileAccess.readInput : m _)

instance : LiftedAccess m (StateT Screen m) :=
  ⟨fun _ => rfl, fun _ => rfl, fun _ => rfl, fun _ => rfl, fun _ _ => rfl, rfl⟩

/-- **The program adds to the screen what the run shows.** -/
theorem run_program (environment : Environment) (arguments : List String) (screen : Screen) :
    (program environment arguments : StateT Screen m ExitCode).run screen = do
      let outcome ← run environment arguments
      return (outcome.exit, screen.displaying outcome) := by
  rw [program_prints_last (k := m), StateT.run_bind, StateT.run_monadLift, bind_assoc]
  refine bind_congr fun outcome => ?_
  rw [pure_bind]
  exact run_display outcome screen

end Screens

/-- On a host that is a value, the program does to it what a run does, and prints what that shows. -/
theorem run_program_host (environment : Environment) (arguments : List String) (screen : Screen)
    (host : Host) :
    ((program environment arguments : StateT Screen (StateM Host) ExitCode).run screen).run host
      = (fun ended : Outcome × Host => ((ended.1.exit, screen.displaying ended.1), ended.2))
          ((run environment arguments : StateM Host Outcome).run host) := by
  rw [run_program]
  rfl

/-- **A program that fails adds nothing to the output, and one that does not fail nothing to the
errors.** -/
theorem program_silent (environment : Environment) (arguments : List String) (screen : Screen)
    (host : Host) {exit : ExitCode} {shown : Screen} {after : Host}
    (ended : ((program environment arguments : StateT Screen (StateM Host) ExitCode).run screen).run
      host = ((exit, shown), after)) :
    if exit.number = 0 then shown.error = screen.error else shown.output = screen.output := by
  rw [run_program_host] at ended
  have effect := run_effect environment arguments host
  generalize (run environment arguments : StateM Host Outcome).run host = outcome at effect ended
  obtain ⟨outcome, later⟩ := outcome
  obtain ⟨⟨rfl, rfl⟩, rfl⟩ := ended
  cases effect with
  | printed other output => exact String.append_empty
  | refused exit fails error =>
    rw [if_neg fails]
    exact String.append_empty
  | unsaved asked error made => exact String.append_empty
  | saved parsed command chosen document made resolved free => exact String.append_empty

end ExprLexer.CommandLine
