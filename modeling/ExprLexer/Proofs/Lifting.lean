import ExprLexer.CommandLine.Run

/-!
Commands in a larger monad.

* `LiftedAccess`: the file operations of a monad are those of a smaller one;
* `lift_bind`: a step that is lifted, with what comes behind it lifted too;
* `lift_ensureDirectory`, `Settings.lift_select`, `Settings.lift_save`: what is made of the file operations
  is lifted with them;
* `CommandLine.lift_run`: **so is a whole run**, which does in the larger monad what it does in the smaller
  one, and nothing else.

A run asks for nothing but file operations.  So whatever else the larger monad can do, such as printing,
a run leaves alone.
-/

namespace ExprLexer

/-- The file operations of `n` are those of `m`. -/
class LiftedAccess (m n : Type → Type) [MonadLiftT m n] [FileAccess m] [FileAccess n] : Prop where
  pathExists (path : Path) :
    (FileAccess.pathExists path : n _) = monadLift (FileAccess.pathExists path : m _)
  isDirectory (path : Path) :
    (FileAccess.isDirectory path : n _) = monadLift (FileAccess.isDirectory path : m _)
  readBytes (path : Path) :
    (FileAccess.readBytes path : n _) = monadLift (FileAccess.readBytes path : m _)
  makeDirectory (path : Path) :
    (FileAccess.makeDirectory path : n _) = monadLift (FileAccess.makeDirectory path : m _)
  writeText (path : Path) (text : String) :
    (FileAccess.writeText path text : n _) = monadLift (FileAccess.writeText path text : m _)
  readInput : (FileAccess.readInput : n _) = monadLift (FileAccess.readInput : m _)

variable {m n : Type → Type} [Monad m] [Monad n] [MonadLiftT m n] [LawfulMonadLiftT m n]

/-- A value that nothing is done for is lifted. -/
theorem lift_pure {α : Type} (value : α) : (pure value : n α) = monadLift (pure value : m α) :=
  (monadLift_pure value).symm

/-- A step that is lifted, with what comes behind it lifted too. -/
theorem lift_bind {α β : Type} {step : m α} {step' : n α} {next : α → m β} {next' : α → n β}
    (first : step' = monadLift step) (later : ∀ value, next' value = monadLift (next value)) :
    step' >>= next' = monadLift (step >>= next) := by
  rw [monadLift_bind, first, funext later]

variable [FileAccess m] [FileAccess n] [LiftedAccess m n]

/-! ### Files -/

theorem lift_readText (path : Path) : (readText path : n _) = monadLift (readText path : m _) :=
  lift_bind (LiftedAccess.readBytes path) fun _ => lift_pure _

theorem lift_settleDirectory (path : Path) :
    (settleDirectory path : n _) = monadLift (settleDirectory path : m _) := by
  refine lift_bind (LiftedAccess.makeDirectory path) fun made => ?_
  cases made with
  | ok _ => exact lift_pure _
  | error error => exact lift_bind (LiftedAccess.isDirectory path) fun _ => lift_pure _

theorem lift_ensureDirectory (path : Path) :
    (ensureDirectory path : n _) = monadLift (ensureDirectory path : m _) := by
  induction path using ensureDirectory.induct with
  | case1 path empty =>
    rw [ensureDirectory, ensureDirectory, if_pos empty, if_pos empty]
    exact lift_pure _
  | case2 path named ih =>
    rw [ensureDirectory, ensureDirectory, if_neg named, if_neg named]
    refine lift_bind (lift_settleDirectory path) fun settled => ?_
    split
    · split
      · exact lift_pure _
      · next parent above =>
        refine lift_bind (ih parent above) fun made => ?_
        split
        · exact lift_settleDirectory path
        · exact lift_pure _
    · exact lift_pure _

theorem Input.lift_read (input : Input) : (input.read : n _) = monadLift (input.read : m _) := by
  cases input with
  | expression text => exact lift_pure _
  | file name =>
    rw [Input.read, Input.read]
    split
    · exact lift_bind LiftedAccess.readInput fun _ => lift_pure _
    · exact lift_bind (lift_readText _) fun _ => lift_pure _

/-! ### Settings -/

namespace Settings

theorem lift_loadFrom (path : Path) (name : String) :
    (loadFrom path name : n _) = monadLift (loadFrom path name : m _) := by
  refine lift_bind (LiftedAccess.pathExists path) fun found => ?_
  cases found with
  | false => exact lift_pure _
  | true =>
    refine lift_bind (lift_readText path) fun text => ?_
    cases text <;> exact lift_pure _

theorem lift_discover (paths : List Path) :
    (discover paths : n _) = monadLift (discover paths : m _) := by
  induction paths with
  | nil => exact lift_pure _
  | cons path later ih =>
    refine lift_bind (LiftedAccess.pathExists path) fun found => ?_
    cases found with
    | false => exact ih
    | true => exact lift_pure _

theorem lift_select (homes : Homes) (config : Option String) :
    (select homes config : n _) = monadLift (select homes config : m _) := by
  cases config with
  | some name => exact lift_loadFrom _ _
  | none =>
    refine lift_bind (lift_discover (candidates homes)) fun path => ?_
    cases path with
    | none => exact lift_pure _
    | some path => exact lift_loadFrom _ _

theorem lift_save (settings : Settings) (name : String) :
    (settings.save name : n _) = monadLift (settings.save name : m _) := by
  unfold save
  dsimp only
  cases (Path.ofString name).parent?
  -- with directories above the file or without, the same follows
  all_goals
    refine lift_bind (by first | exact lift_pure _ | exact lift_ensureDirectory _) fun made => ?_
    cases made with
    | error error => exact lift_pure _
    | ok _ =>
      cases settings.document with
      | error error => exact lift_pure _
      | ok text => exact lift_bind (LiftedAccess.writeText _ text) fun _ => lift_pure _

end Settings

/-! ### Runs -/

namespace CommandLine

theorem lift_execute (settings : Settings) (command : Command) :
    (execute settings command : n _) = monadLift (execute settings command : m _) := by
  cases command with
  | tokens input output => exact lift_bind (Input.lift_read input) fun _ => lift_pure _
  | peek count text output => exact lift_pure _
  | config save =>
    cases save with
    | none => exact lift_pure _
    | some name => exact lift_bind (settings.lift_save name) fun _ => lift_pure _

theorem lift_perform (homes : Settings.Homes) (invocation : Invocation) :
    (perform homes invocation : n _) = monadLift (perform homes invocation : m _) := by
  refine lift_bind (Settings.lift_select homes invocation.config) fun settings => ?_
  cases settings with
  | error failure => exact lift_pure _
  | ok settings => exact lift_execute settings invocation.command

/-- **A run does in a larger monad what it does in the smaller one.** -/
theorem lift_run [LawfulMonad m] [LawfulMonad n] (environment : Environment)
    (arguments : List String) :
    (run environment arguments : n _) = monadLift (run environment arguments : m _) := by
  unfold run
  cases Invocation.parse environment arguments with
  | error stop => exact lift_pure _
  | ok invocation =>
    dsimp only
    rw [monadLift_map, lift_perform (m := m)]

end CommandLine

end ExprLexer
