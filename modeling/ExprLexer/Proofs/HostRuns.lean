import ExprLexer.CommandLine.Run
import ExprLexer.Files.FileSystem

/-!
Commands on a host that is a value: what each of their steps comes to.

* `FileSystem.at?`: what stands at a path, which is all that loading a file of settings sees of it;
* `Input.run_read`: the text that a command looks at;
* `Settings.ofEntry`, `Settings.run_loadFrom`: the settings that some entry holds;
* `Settings.choice`, `Settings.run_select`: **the settings of a run are those of the first file there
  is, and choosing them changes nothing**;
* `CommandLine.run_execute_tokens`, `CommandLine.run_execute_peek`, `CommandLine.run_execute_show`: the
  commands that change nothing;
* `CommandLine.run_of_parse`: **a run does what its arguments ask for, with the settings chosen**.
-/

namespace ExprLexer

namespace Host

variable {α β : Type}

theorem run_bind (action : StateM Host α) (next : α → StateM Host β) (host : Host) :
    (action >>= next).run host = (next (action.run host).1).run (action.run host).2 := rfl

theorem run_map (change : α → β) (action : StateM Host α) (host : Host) :
    (change <$> action).run host = (change (action.run host).1, (action.run host).2) := rfl

/-- An action that changes a file system changes nothing else, and nothing at all if it fails. -/
theorem run_change (change : FileSystem → Except FileError FileSystem) (host : Host) :
    (Host.change change).run host
      = match change host.files with
        | .ok files => (.ok (), { host with files })
        | .error error => (.error error, host) := rfl

end Host

/-! ### Files that are read -/

namespace FileSystem

variable {files : FileSystem} {path : Path}

/-- What stands at a path; behind a slash at its end only a directory does. -/
def at? (files : FileSystem) (path : Path) : Option Entry :=
  match files.resolve path with
  | .error _ => none
  | .ok place =>
    match files.get? place with
    | none => none
    | some .directory => some .directory
    | some (.file content) => if path.trailing then none else some (.file content)

theorem pathExists_eq (files : FileSystem) (path : Path) :
    files.pathExists path = (files.at? path).isSome := by
  unfold pathExists at?
  cases files.resolve path with
  | error error => rfl
  | ok place =>
    dsimp only
    cases files.get? place with
    | none => rfl
    | some entry =>
      cases entry with
      | directory => rfl
      | file content => cases path.trailing <;> rfl

/-- Reading sees what stands at a path. -/
theorem read_of_at? {entry : Entry} (stands : files.at? path = some entry) :
    files.read path
      = match entry with
        | .file content => .ok content
        | .directory => .error .isADirectory := by
  unfold at? at stands
  unfold read
  cases resolved : files.resolve path with
  | error error =>
    rw [resolved] at stands
    cases stands
  | ok place =>
    rw [resolved] at stands
    dsimp only [Except.bind] at stands ⊢
    cases standing : files.get? place with
    | none =>
      rw [standing] at stands
      cases stands
    | some found =>
      rw [standing] at stands
      cases found with
      | directory =>
        obtain rfl := Option.some.inj stands
        rfl
      | file content =>
        cases plain : path.trailing with
        | true =>
          rw [plain] at stands
          cases stands
        | false =>
          rw [plain] at stands
          obtain rfl := Option.some.inj stands
          rfl

end FileSystem

theorem run_pathExists (path : Path) (host : Host) :
    (FileAccess.pathExists path : StateM Host _).run host
      = ((host.files.at? path).isSome, host) :=
  congrArg (·, host) (FileSystem.pathExists_eq host.files path)

theorem run_readText (path : Path) (host : Host) :
    (readText path : StateM Host _).run host = ((host.files.read path).bind decode, host) := rfl

/-- The text that an input gives on a host. -/
def Input.textOn (host : Host) : Input → Except Failure String
  | .expression text => .ok text
  | .file name =>
    if name = "-" then (decode host.input).mapError .input
    else ((host.files.read (Path.ofString name)).bind decode).mapError (.file name)

/-- Reading an input changes nothing. -/
theorem Input.run_read (input : Input) (host : Host) :
    (input.read : StateM Host _).run host = (input.textOn host, host) := by
  cases input with
  | expression text => rfl
  | file name =>
    rw [Input.read, Input.textOn]
    split <;> rfl

/-! ### Settings -/

namespace Settings

/-- The settings that what stands at a path holds, shown in messages as `name`. -/
def ofEntry (name : String) : Option Entry → Except Failure Settings
  | none => .error (.settings (.notFound name))
  | some .directory => .error (.input .isADirectory)
  | some (.file content) =>
    match decode content with
    | .error error => .error (.input error)
    | .ok text => (parse text).mapError .settings

theorem run_loadFrom (path : Path) (name : String) (host : Host) :
    (loadFrom path name : StateM Host _).run host
      = (ofEntry name (host.files.at? path), host) := by
  rw [loadFrom, Host.run_bind, run_pathExists]
  cases stands : host.files.at? path with
  | none => rfl
  | some entry =>
    dsimp only [Option.isSome_some]
    rw [if_pos rfl, Host.run_bind, run_readText, FileSystem.read_of_at? stands]
    cases entry with
    | directory => rfl
    | file content =>
      rw [ofEntry]
      dsimp only [Except.bind]
      cases decode content <;> rfl

theorem run_discover (paths : List Path) (host : Host) :
    (discover paths : StateM Host _).run host
      = (paths.find? fun path => (host.files.at? path).isSome, host) := by
  induction paths with
  | nil => rfl
  | cons path later ih =>
    rw [discover, Host.run_bind, run_pathExists, List.find?_cons]
    cases host.files.at? path with
    | none => exact ih
    | some entry => rfl

/-- The settings of a run, by what stands at the paths they may come from. -/
def choice (standing : Path → Option Entry) (homes : Homes) : Option String → Except Failure Settings
  | some name => ofEntry name (standing (Path.ofString name))
  | none =>
    match (candidates homes).find? fun path => (standing path).isSome with
    | some path => ofEntry path.text (standing path)
    | none => .ok {}

/-- **Choosing settings sees of the files what stands at the paths, and changes nothing.** -/
theorem run_select (homes : Homes) (config : Option String) (host : Host) :
    (select homes config : StateM Host _).run host
      = (choice host.files.at? homes config, host) := by
  cases config with
  | some name => exact run_loadFrom _ _ _
  | none =>
    rw [select, Host.run_bind, run_discover, choice]
    cases (candidates homes).find? fun path => (host.files.at? path).isSome with
    | none => rfl
    | some path => exact run_loadFrom _ _ _

end Settings

/-! ### Commands -/

namespace CommandLine

theorem run_execute_tokens (settings : Settings) (input : Input) (output : OutputOptions)
    (host : Host) :
    (execute settings (.tokens input output) : StateM Host _).run host
      = ((input.textOn host).bind fun text =>
          (tokensOutput (rendering output settings) settings.maxTokens text).map (· ++ "\n"),
        host) := by
  rw [execute, Host.run_bind, Input.run_read]
  cases input.textOn host with
  | error failure => rfl
  | ok text =>
    show ((tokensOutput (rendering output settings) settings.maxTokens text >>= fun printed =>
      pure (printed ++ "\n")), host) = _
    dsimp only [Except.bind]
    cases tokensOutput (rendering output settings) settings.maxTokens text <;> rfl

theorem run_execute_peek (settings : Settings) (count : Nat) (text : String)
    (output : OutputOptions) (host : Host) :
    (execute settings (.peek count text output) : StateM Host _).run host
      = ((aheadOutput (rendering output settings) settings.maxTokens count text).map withNewline,
        host) := rfl

theorem run_execute_show (settings : Settings) (host : Host) :
    (execute settings (.config none) : StateM Host _).run host
      = (settings.document.mapError .settings, host) := rfl

theorem run_execute_save (settings : Settings) (name : String) (host : Host) :
    (execute settings (.config (some name)) : StateM Host _).run host
      = (((settings.save name : StateM Host _).run host).1.map fun _ => "",
        ((settings.save name : StateM Host _).run host).2) := rfl

/-- Carrying out what is asked for begins with choosing the settings. -/
theorem run_perform (homes : Settings.Homes) (invocation : Invocation) (host : Host) :
    (perform homes invocation : StateM Host _).run host
      = match Settings.choice host.files.at? homes invocation.config with
        | .error failure => (.error failure, host)
        | .ok settings => (execute settings invocation.command : StateM Host _).run host := by
  rw [perform, Host.run_bind, Settings.run_select]
  cases Settings.choice host.files.at? homes invocation.config <;> rfl

variable {environment : Environment} {arguments : List String}

theorem run_of_stop {stop : StopAt}
    (stops : Invocation.parse environment arguments = .error stop) (host : Host) :
    (run environment arguments : StateM Host _).run host = (stopped stop, host) := by
  rw [run, stops]
  rfl

/-- **A run does what its arguments ask for.** -/
theorem run_of_parse {invocation : Invocation}
    (parsed : Invocation.parse environment arguments = .ok invocation) (host : Host) :
    (run environment arguments : StateM Host _).run host
      = (finished ((perform environment.homes invocation : StateM Host _).run host).1,
        ((perform environment.homes invocation : StateM Host _).run host).2) := by
  rw [run, parsed]
  rfl

end CommandLine

end ExprLexer
