import ExprLexer.Proofs.FileChanges

/-!
Where the settings of a run come from.

* `Settings.usualFiles`: the files looked for where none is named, and `Settings.sources`: the files
  that settings may come from;
* `Settings.LoadedFrom`: an entry holds settings, and `Settings.ofEntry_eq_ok_iff`: **exactly these
  are loaded**;
* `Settings.FirstAlike`: file systems that hold the same at the first of some paths where anything
  stands, and `Settings.choice_congr`: **these give the same settings**;
* `CommandLine.exists_bare_of_parse`: **a file that the arguments name counts before the one that the
  environment names**;
* `CommandLine.Governed`: the first source there is decides how a run goes on, and
  `CommandLine.run_selected`: **that is so in every run, and a run that reads no other file sees
  nothing else of the files**.
-/

namespace ExprLexer

open FileSystem

namespace Settings

/-! ### Sources -/

/-- The files looked for where none is named: here, below the home directory, and below the directory
for settings if that one is set by an absolute path. -/
def usualFiles (homes : Homes) : List Path :=
  [Path.ofString "calxt.toml"]
    ++ ((homes.home.map Path.ofString).filter (!·.isEmpty)).toList.map
        (·.join [".config", "calxt", "calxt.toml"])
    ++ ((homes.settings.map Path.ofString).filter (·.absolute)).toList.map
        (·.join ["calxt", "calxt.toml"])

/-- The files that settings may come from: the one named, or else the usual ones, in order. -/
def sources (homes : Homes) : Option String → List Path
  | some name => [Path.ofString name]
  | none => usualFiles homes

/-- Looking at a path once more finds nothing new. -/
theorem find?_append_self (paths : List Path) (here : Path → Bool) :
    (paths ++ paths).find? here = paths.find? here := by
  rw [List.find?_append]
  cases paths.find? here <;> rfl

/-- Without a directory for settings the one below the home directory is looked at twice. -/
theorem find?_candidates (homes : Homes) (here : Path → Bool) :
    (candidates homes).find? here = (usualFiles homes).find? here := by
  unfold candidates usualFiles
  generalize (homes.home.map Path.ofString).filter (!·.isEmpty) = home
  generalize (homes.settings.map Path.ofString).filter (·.absolute) = chosen
  cases chosen with
  | some directory => cases home <;> rfl
  | none =>
    cases home with
    | none => rfl
    | some directory =>
      have twice := find?_append_self [directory.join [".config", "calxt", "calxt.toml"]] here
      show List.find? here (Path.ofString "calxt.toml"
        :: ([directory.join [".config", "calxt", "calxt.toml"]]
          ++ [directory.join [".config", "calxt", "calxt.toml"]])) = _
      rw [List.find?_cons, twice]
      rfl

/-- The settings are those of the first source there is.  A file that is named must be there, and
where none is named the settings may be the defaults. -/
theorem choice_eq (files : FileSystem) (homes : Homes) (config : Option String) :
    choice files.at? homes config
      = match (sources homes config).find? files.pathExists with
        | some path => ofEntry (config.getD path.text) (files.at? path)
        | none =>
          match config with
          | some name => .error (.settings (.notFound name))
          | none => .ok {} := by
  have standing : files.pathExists = fun path => (files.at? path).isSome :=
    funext (pathExists_eq files)
  rw [standing]
  cases config with
  | some name =>
    rw [choice, sources, List.find?_singleton]
    cases stands : files.at? (Path.ofString name) with
    | none => rfl
    | some entry =>
      show _ = ofEntry name (files.at? (Path.ofString name))
      rw [stands]
  | none =>
    rw [choice, find?_candidates]
    rfl

/-- The same stands at the first of some paths where anything stands. -/
structure FirstAlike (first second : FileSystem) (paths : List Path) : Prop where
  selected : paths.find? first.pathExists = paths.find? second.pathExists
  content : ∀ path, paths.find? first.pathExists = some path → first.at? path = second.at? path

/-- **File systems alike at the first source give the same settings.** -/
theorem choice_congr {first second : FileSystem} {homes : Homes} {config : Option String}
    (alike : FirstAlike first second (sources homes config)) :
    choice first.at? homes config = choice second.at? homes config := by
  rw [choice_eq, choice_eq, ← alike.selected]
  cases selected : (sources homes config).find? first.pathExists with
  | none => rfl
  | some path =>
    dsimp only
    rw [alike.content path selected]

/-! ### Loading -/

/-- An entry holds settings: it is a file, its bytes are a text, the text is a document whose keys have
values of their kinds, and the settings allow a token. -/
inductive LoadedFrom : Entry → Settings → Prop
  | file {content : ByteArray} {text : String} {entries : Toml.Entries} {settings : Settings}
      (decoded : String.fromUTF8? content = some text) (wellFormed : Toml.parse? text = some entries)
      (typed : ofEntries? entries = some settings) (allows : settings.maxTokens ≠ 0) :
      LoadedFrom (.file content) settings

theorem check_eq_ok_iff {settings checked : Settings} :
    settings.check = .ok checked ↔ settings = checked ∧ checked.maxTokens ≠ 0 := by
  unfold check
  by_cases none : settings.maxTokens = 0
  · rw [if_pos none]
    refine ⟨nofun, ?_⟩
    rintro ⟨rfl, allows⟩
    exact absurd none allows
  · rw [if_neg none, Except.ok.injEq]
    refine ⟨?_, fun both => both.1⟩
    rintro rfl
    exact ⟨rfl, none⟩

theorem parse_eq_ok_iff {text : String} {settings : Settings} :
    parse text = .ok settings ↔ ∃ entries, Toml.parse? text = some entries
      ∧ ofEntries? entries = some settings ∧ settings.maxTokens ≠ 0 := by
  unfold parse
  cases Toml.parse? text with
  | none => simp
  | some entries =>
    cases typed : ofEntries? entries with
    | none => simp [typed]
    | some found => simp [typed, check_eq_ok_iff]

theorem ofEntry_file_eq_ok_iff {name : String} {content : ByteArray} {settings : Settings} :
    ofEntry name (some (.file content)) = .ok settings
      ↔ ∃ text, String.fromUTF8? content = some text ∧ parse text = .ok settings := by
  rw [ofEntry, decode]
  cases String.fromUTF8? content with
  | none => simp
  | some text =>
    cases parsed : parse text with
    | error error => simp [parsed, Except.mapError]
    | ok found => simp [parsed, Except.mapError]

/-- **An entry is loaded exactly if it holds settings.** -/
theorem ofEntry_eq_ok_iff {name : String} {entry : Entry} {settings : Settings} :
    ofEntry name (some entry) = .ok settings ↔ LoadedFrom entry settings := by
  cases entry with
  | directory => exact ⟨nofun, nofun⟩
  | file content =>
    rw [ofEntry_file_eq_ok_iff]
    refine ⟨?_, ?_⟩
    · rintro ⟨text, decoded, parsed⟩
      obtain ⟨entries, wellFormed, typed, allows⟩ := parse_eq_ok_iff.mp parsed
      exact .file decoded wellFormed typed allows
    · rintro ⟨decoded, wellFormed, typed, allows⟩
      exact ⟨_, decoded, parse_eq_ok_iff.mpr ⟨_, wellFormed, typed, allows⟩⟩

end Settings

namespace CommandLine

/-! ### Arguments before variables -/

/-- No variable is set. -/
def Environment.bare : Environment := ⟨none, none, none, ⟨none, none⟩⟩

theorem ok_of_mapError_ok {ε δ α : Type} {change : ε → δ} {outcome : Except ε α} {result : α}
    (mapped : outcome.mapError change = .ok result) : outcome = .ok result := by
  cases outcome with
  | error error => cases mapped
  | ok value => exact congrArg Except.ok (Except.ok.inj mapped)

variable {environment : Environment} {arguments : List String} {invocation : Invocation}

/-- Arguments that can be read beside some variables can be read without them. -/
theorem finish_bare {level : Level} {given settled : Given}
    (finishes : level.finish environment given = .ok settled) :
    level.finish .bare given = .ok settled := by
  obtain ⟨last, settles, usable⟩ := exists_of_bind_ok finishes
  have same : last = settled := by
    split at usable
    · exact Except.ok.inj usable
    · cases usable
  subst same
  have bare : Environment.bare.isUsable last = true := by
    simp [Environment.isUsable, Environment.isTruth, Environment.bare]
  show (level.settle given).bind _ = _
  rw [settles]
  exact if_pos bare

theorem exists_bare_of_parseCommand {before : Given} {name : String} {level : Level}
    {command : Given → Except Stop Command}
    (parsed : parseCommand environment before name level command arguments = .ok invocation) :
    ∃ bare, parseCommand .bare before name level command arguments = .ok bare
      ∧ bare.command = invocation.command
      ∧ invocation.config = (bare.config <|> environment.config) := by
  obtain ⟨⟨read, rest⟩, reads, parsed⟩ := exists_of_bind_ok parsed
  obtain ⟨behind, finishes, parsed⟩ := exists_of_bind_ok parsed
  obtain ⟨asked, asks, parsed⟩ := exists_of_bind_ok parsed
  obtain ⟨settled, finishesBefore, parsed⟩ := exists_of_bind_ok parsed
  obtain rfl := Except.ok.inj parsed
  have finishes := finish_bare (ok_of_mapError_ok finishes)
  have finishesBefore := finish_bare (ok_of_mapError_ok finishesBefore)
  refine ⟨⟨flag settled behind .verbose none, flag settled behind .noColor none,
    behind.value? .config <|> settled.value? .config <|> none, asked⟩, ?_, rfl, ?_⟩
  · unfold parseCommand
    rw [ok_of_mapError_ok reads, finishesBefore]
    show (Except.mapError _ (level.finish .bare read)).bind _ = _
    rw [finishes]
    show (Except.mapError _ (command behind)).bind _ = _
    rw [ok_of_mapError_ok asks]
    rfl
  · show (behind.value? .config <|> settled.value? .config <|> environment.config)
      = ((behind.value? .config <|> settled.value? .config <|> none) <|> environment.config)
    cases behind.value? .config <;> cases settled.value? .config <;> rfl

/-- **A file that the arguments name counts before the one that the environment names.** -/
theorem exists_bare_of_parse (parsed : Invocation.parse environment arguments = .ok invocation) :
    ∃ bare, Invocation.parse .bare arguments = .ok bare ∧ bare.command = invocation.command
      ∧ invocation.config = (bare.config <|> environment.config) := by
  unfold Invocation.parse at parsed ⊢
  split at parsed
  · cases parsed
  · cases parsed
  · split at parsed
    · exact exists_bare_of_parseCommand parsed
    · exact exists_bare_of_parseCommand parsed
    · exact exists_bare_of_parseCommand parsed
    · cases parsed

/-- Behind the command the file counts that is named there. -/
example : Invocation.parse .bare ["-c", "a.toml", "config", "--config=b.toml"]
    = .ok ⟨false, false, some "b.toml", .config none⟩ := by
  decide +kernel

/-! ### Runs that read nothing else -/

/-- The command reads no file by itself. -/
def Command.ReadsNoFile : Command → Prop
  | .tokens (.expression _) _ => True
  | .tokens (.file name) _ => name = "-"
  | .peek _ _ _ => True
  | .config save => save = none

theorem execute_congr {command : Command} (readsNoFile : command.ReadsNoFile) (settings : Settings)
    {first second : Host} (input : first.input = second.input) :
    ((execute settings command : StateM Host _).run first).1
      = ((execute settings command : StateM Host _).run second).1 := by
  cases command with
  | tokens source output =>
    have same : source.textOn first = source.textOn second := by
      cases source with
      | expression text => rfl
      | file name =>
        have dash : name = "-" := readsNoFile
        rw [Input.textOn, Input.textOn, if_pos dash, if_pos dash, input]
    rw [run_execute_tokens, run_execute_tokens, same]
  | peek count text output => rfl
  | config save =>
    obtain rfl : save = none := readsNoFile
    rfl

/-- The first source there is decides how a run goes on. -/
structure Governed (environment : Environment) (arguments : List String) (invocation : Invocation)
    (host : Host) : Prop where
  /-- The settings are those of the source. -/
  loaded : ∀ path entry settings,
    (Settings.sources environment.homes invocation.config).find? host.files.pathExists = some path →
    host.files.at? path = some entry → Settings.LoadedFrom entry settings →
    (run environment arguments : StateM Host Outcome).run host
      = (finished <$> execute settings invocation.command : StateM Host Outcome).run host
  /-- A source that holds no settings ends the run. -/
  refused : ∀ path entry,
    (Settings.sources environment.homes invocation.config).find? host.files.pathExists = some path →
    host.files.at? path = some entry → (∀ settings, ¬Settings.LoadedFrom entry settings) →
    ((run environment arguments : StateM Host Outcome).run host).1.exit.number = 1
  /-- A file that is named and not there ends the run. -/
  missing : ∀ name, invocation.config = some name →
    host.files.pathExists (Path.ofString name) = false →
    ((run environment arguments : StateM Host Outcome).run host).1.exit.number = 1
  /-- Without any of the usual files the settings are the defaults. -/
  standard : invocation.config = none →
    (∀ path ∈ Settings.usualFiles environment.homes, host.files.pathExists path = false) →
    (run environment arguments : StateM Host Outcome).run host
      = (finished <$> execute {} invocation.command : StateM Host Outcome).run host

/-- A run whose settings are chosen carries out its command with them. -/
theorem run_of_choice (parsed : Invocation.parse environment arguments = .ok invocation)
    {host : Host} {settings : Settings}
    (chosen : Settings.choice host.files.at? environment.homes invocation.config = .ok settings) :
    (run environment arguments : StateM Host Outcome).run host
      = (finished <$> execute settings invocation.command : StateM Host Outcome).run host := by
  rw [run_of_parse parsed, run_perform, chosen, Host.run_map]

/-- A run without settings fails. -/
theorem exit_of_choice (parsed : Invocation.parse environment arguments = .ok invocation)
    {host : Host} {failure : Failure}
    (chosen : Settings.choice host.files.at? environment.homes invocation.config = .error failure) :
    ((run environment arguments : StateM Host Outcome).run host).1.exit.number = 1 := by
  rw [run_of_parse parsed, run_perform, chosen]
  rfl

theorem governed_of_parse (parsed : Invocation.parse environment arguments = .ok invocation)
    (host : Host) : Governed environment arguments invocation host where
  loaded path entry settings selected stands loads := by
    refine run_of_choice parsed ?_
    rw [Settings.choice_eq, selected]
    dsimp only
    rw [stands]
    exact Settings.ofEntry_eq_ok_iff.mpr loads
  refused path entry selected stands holdsNone := by
    have choice := Settings.choice_eq host.files environment.homes invocation.config
    rw [selected] at choice
    dsimp only at choice
    rw [stands] at choice
    cases loads : Settings.ofEntry (invocation.config.getD path.text) (some entry) with
    | ok settings => exact absurd (Settings.ofEntry_eq_ok_iff.mp loads) (holdsNone settings)
    | error failure => exact exit_of_choice parsed (choice.trans loads)
  missing name named absent := by
    have none : (Settings.sources environment.homes (some name)).find? host.files.pathExists = none := by
      rw [Settings.sources, List.find?_singleton, absent]
      rfl
    have chosen : Settings.choice host.files.at? environment.homes invocation.config
        = .error (.settings (.notFound name)) := by
      rw [Settings.choice_eq, named, none]
    exact exit_of_choice parsed chosen
  standard unnamed absent := by
    have none : (Settings.sources environment.homes none).find? host.files.pathExists = none :=
      List.find?_eq_none.mpr fun path usual => by simp [absent path usual]
    refine run_of_choice parsed ?_
    rw [Settings.choice_eq, unnamed, none]

/-- **Only the first source there is matters.**  The file that the arguments name counts first, then
the one that the environment names, then the first of the usual files.  A run that reads no other
file shows the same wherever the same stands there, and one whose source holds no settings fails. -/
theorem run_selected (environment : Environment) (arguments : List String) :
    (∀ first second : Host, first.input = second.input →
      (∀ invocation, Invocation.parse environment arguments = .ok invocation →
        invocation.command.ReadsNoFile ∧ Settings.FirstAlike first.files second.files
          (Settings.sources environment.homes invocation.config)) →
      ((run environment arguments : StateM Host Outcome).run first).1
        = ((run environment arguments : StateM Host Outcome).run second).1)
    ∧ ∀ invocation, Invocation.parse environment arguments = .ok invocation →
      (∃ bare, Invocation.parse .bare arguments = .ok bare ∧ bare.command = invocation.command
        ∧ invocation.config = (bare.config <|> environment.config))
      ∧ ∀ host, Governed environment arguments invocation host := by
  refine ⟨fun first second input alike => ?_, fun invocation parsed =>
    ⟨exists_bare_of_parse parsed, governed_of_parse parsed⟩⟩
  cases parsed : Invocation.parse environment arguments with
  | error stop => rw [run_of_stop parsed, run_of_stop parsed]
  | ok invocation =>
    obtain ⟨readsNoFile, sources⟩ := alike invocation parsed
    rw [run_of_parse parsed, run_of_parse parsed, run_perform, run_perform,
      Settings.choice_congr sources]
    cases Settings.choice second.files.at? environment.homes invocation.config with
    | error failure => rfl
    | ok settings => exact congrArg finished (execute_congr readsNoFile settings input)

/-- Two of the usual files are there, and the first of them allows no token. -/
def overshadowed : Host where
  files := {
    entries := [
      (["work"], .directory),
      (["work", "calxt.toml"], .file "max_tokens = 0\n".toUTF8),
      (["home"], .directory),
      (["home", ".config"], .directory),
      (["home", ".config", "calxt"], .directory),
      (["home", ".config", "calxt", "calxt.toml"], .file "max_tokens = 5\n".toUTF8)]
    workingDirectory := ["work"] }
  input := .empty

/-- The second file does not stand in for the first one. -/
theorem run_selected_overshadowed :
    ((run ⟨none, none, none, ⟨some "/home", none⟩⟩ ["peek", "1", "--expr", "x"] :
      StateM Host Outcome).run overshadowed).1.exit.number = 1 := by
  have parsed : Invocation.parse ⟨none, none, none, ⟨some "/home", none⟩⟩
      ["peek", "1", "--expr", "x"] = .ok ⟨false, false, none, .peek 1 "x" ⟨none, false⟩⟩ := by
    decide +kernel
  have refused : Settings.ofEntry "calxt.toml" (some (.file "max_tokens = 0\n".toUTF8))
      = .error (.settings .noTokens) := by
    decide +kernel
  refine (((run_selected _ _).2 _ parsed).2 overshadowed).refused (Path.ofString "calxt.toml")
    (.file "max_tokens = 0\n".toUTF8) (by decide +kernel) rfl fun settings loads => ?_
  have loaded : Settings.ofEntry "calxt.toml" (some (.file "max_tokens = 0\n".toUTF8))
      = .ok settings := Settings.ofEntry_eq_ok_iff.mpr loads
  cases refused.symm.trans loaded

end CommandLine

end ExprLexer
