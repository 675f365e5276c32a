import ExprLexer.Proofs.FileChanges

/-!
Runs do all that they are asked for, or nothing.

* `CommandLine.AskedToSave`: the arguments ask for the settings to be saved to a file;
* `CommandLine.exists_run_execute_eq`: **no other command changes anything**;
* `CommandLine.Effect`: what a run can come to, and `CommandLine.run_effect`: **every run comes to one
  of these**;
* `CommandLine.AllOrNothing`: a run that fails prints nothing and changes no file, one that does not
  fail reports nothing and has written what it was asked to save, and no other file changes;
* `CommandLine.run_allOrNothing`: **that is so for all arguments on every host**.

A run prints at its end only, so that what it shows is one of a few pairs.  All steps of saving but the
last make directories, and the last one writes.
-/

namespace ExprLexer

open FileSystem (Made)

namespace CommandLine

/-- The arguments ask for the settings to be saved to a file. -/
def AskedToSave (environment : Environment) (arguments : List String) (name : String) : Prop :=
  ∃ invocation, Invocation.parse environment arguments = .ok invocation
    ∧ invocation.command = .config (some name)

/-- What a run shows, and the host it leaves. -/
inductive Effect (environment : Environment) (arguments : List String) (host : Host) :
    Outcome → Host → Prop
  /-- Something is printed, and nothing changes. -/
  | printed (other : ∀ name, ¬ AskedToSave environment arguments name) (output : String) :
      Effect environment arguments host ⟨.success, output, ""⟩ host
  /-- It is said why nothing is done. -/
  | refused (exit : ExitCode) (fails : exit.number ≠ 0) (error : String) :
      Effect environment arguments host ⟨exit, "", error⟩ host
  /-- Directories above a file were made at most, but the file was not written. -/
  | unsaved {name : String} {after : Host} (asked : AskedToSave environment arguments name)
      (error : String) (made : Made (Settings.directoriesFor name) host.files after.files) :
      Effect environment arguments host ⟨.failure, "", error⟩ after
  /-- The document of the settings was written where a path leads, with the directories above there. -/
  | saved {invocation : Invocation} {name text : String} {settings : Settings} {between : Host}
      {place : Place} (parsed : Invocation.parse environment arguments = .ok invocation)
      (command : invocation.command = .config (some name))
      (chosen : Settings.choice host.files.at? environment.homes invocation.config = .ok settings)
      (document : settings.document = .ok text)
      (made : Made (Settings.directoriesFor name) host.files between.files)
      (resolved : between.files.resolve (Path.ofString name) = .ok place)
      (free : between.files.get? place ≠ some .directory) :
      Effect environment arguments host ⟨.success, "", ""⟩
        { between with files := between.files.put place (.file text.toUTF8) }

variable {environment : Environment} {arguments : List String} {invocation : Invocation}
  {host after : Host} {name : String}

theorem askedToSave_iff (parsed : Invocation.parse environment arguments = .ok invocation) :
    AskedToSave environment arguments name ↔ invocation.command = .config (some name) := by
  refine ⟨?_, fun command => ⟨invocation, parsed, command⟩⟩
  rintro ⟨read, reads, command⟩
  obtain rfl := Except.ok.inj (parsed.symm.trans reads)
  exact command

theorem effect_of_stop {stop : StopAt}
    (stops : Invocation.parse environment arguments = .error stop) :
    Effect environment arguments host (stopped stop) host := by
  have other : ∀ name, ¬ AskedToSave environment arguments name := by
    rintro name ⟨invocation, parsed, -⟩
    cases stops.symm.trans parsed
  obtain ⟨stop, command⟩ := stop
  cases stop with
  | misuse => exact .refused .misuse (by decide) usage
  | help => exact .printed other usage
  | version => exact .printed other (versionRow command)

theorem effect_of_failure (failure : Failure) :
    Effect environment arguments host (finished (.error failure)) host :=
  .refused .failure (by decide) _

theorem effect_of_result (other : ∀ name, ¬ AskedToSave environment arguments name)
    (result : Except Failure String) :
    Effect environment arguments host (finished result) host := by
  cases result with
  | ok output => exact .printed other output
  | error failure => exact effect_of_failure failure

theorem effect_of_saved (parsed : Invocation.parse environment arguments = .ok invocation)
    (command : invocation.command = .config (some name)) {settings : Settings}
    (chosen : Settings.choice host.files.at? environment.homes invocation.config = .ok settings)
    {result : Except Failure Unit} (saved : Settings.Saved settings name host result after) :
    Effect environment arguments host (finished (result.map fun _ => "")) after := by
  cases saved with
  | failed made => exact .unsaved ⟨invocation, parsed, command⟩ _ made
  | written made document resolved free plain =>
    exact .saved parsed command chosen document made resolved free

/-- A command that saves nothing changes nothing. -/
theorem exists_run_execute_eq (settings : Settings) {command : Command}
    (other : ∀ name, command ≠ .config (some name)) (host : Host) :
    ∃ result, (execute settings command : StateM Host _).run host = (result, host) := by
  cases command with
  | tokens input output => exact ⟨_, run_execute_tokens settings input output host⟩
  | peek count text output => exact ⟨_, run_execute_peek settings count text output host⟩
  | config save =>
    cases save with
    | none => exact ⟨_, run_execute_show settings host⟩
    | some name => exact absurd rfl (other name)

/-- **Every run comes to one of these.** -/
theorem run_effect (environment : Environment) (arguments : List String) (host : Host) :
    Effect environment arguments host ((run environment arguments : StateM Host Outcome).run host).1
      ((run environment arguments : StateM Host Outcome).run host).2 := by
  cases parsed : Invocation.parse environment arguments with
  | error stop =>
    rw [run_of_stop parsed]
    exact effect_of_stop parsed
  | ok invocation =>
    rw [run_of_parse parsed, run_perform]
    cases chosen : Settings.choice host.files.at? environment.homes invocation.config with
    | error failure => exact effect_of_failure failure
    | ok settings =>
      dsimp only
      by_cases asked : ∃ name, invocation.command = .config (some name)
      · obtain ⟨name, command⟩ := asked
        rw [command, run_execute_save]
        exact effect_of_saved parsed command chosen (Settings.saved settings name host)
      · obtain ⟨result, quiet⟩ := exists_run_execute_eq settings (not_exists.mp asked) host
        rw [quiet]
        exact effect_of_result (fun name => mt (askedToSave_iff parsed).mp (not_exists.mp asked name))
          result

/-- What a run shows goes with what it changes. -/
structure AllOrNothing (environment : Environment) (arguments : List String) (host : Host)
    (outcome : Outcome) (after : Host) : Prop where
  /-- A run that fails prints nothing, makes no file and changes none. -/
  failure : outcome.exit.number ≠ 0 →
    outcome.output = "" ∧ ∀ place, after.files.content? place = host.files.content? place
  /-- A run that does not fail reports nothing. -/
  success : outcome.exit.number = 0 → outcome.error = ""
  /-- Only the file is changed that settings are saved to. -/
  content : ∀ place, after.files.content? place ≠ host.files.content? place →
    outcome.exit.number = 0 ∧ ∃ name, AskedToSave environment arguments name
      ∧ after.files.resolve (Path.ofString name) = .ok place
  /-- That file then holds the document of the settings that the run has chosen. -/
  saved : ∀ invocation name, Invocation.parse environment arguments = .ok invocation →
    invocation.command = .config (some name) → outcome.exit.number = 0 →
    ∃ settings text place,
      (Settings.select environment.homes invocation.config : StateM Host _).run host
          = (.ok settings, host)
        ∧ settings.document = .ok text ∧ after.files.resolve (Path.ofString name) = .ok place
        ∧ after.files.content? place = some text.toUTF8
  /-- All else that changes are directories, made above that file. -/
  directories : ∀ place, after.files.get? place ≠ host.files.get? place →
    after.files.content? place = host.files.content? place →
    host.files.get? place = none ∧ after.files.get? place = some .directory
      ∧ ∃ name above, AskedToSave environment arguments name ∧ Settings.directoriesFor name above
        ∧ after.files.resolve above = .ok place

theorem allOrNothing_of_printed (other : ∀ name, ¬ AskedToSave environment arguments name)
    (output : String) :
    AllOrNothing environment arguments host ⟨.success, output, ""⟩ host where
  failure fails := absurd rfl fails
  success _ := rfl
  content _ differs := absurd rfl differs
  saved invocation name parsed command _ := absurd ⟨invocation, parsed, command⟩ (other name)
  directories _ differs _ := absurd rfl differs

theorem allOrNothing_of_refused (exit : ExitCode) (fails : exit.number ≠ 0) (error : String) :
    AllOrNothing environment arguments host ⟨exit, "", error⟩ host where
  failure _ := ⟨rfl, fun _ => rfl⟩
  success succeeds := absurd succeeds fails
  content _ differs := absurd rfl differs
  saved _ _ _ _ succeeds := absurd succeeds fails
  directories _ differs _ := absurd rfl differs

theorem allOrNothing_of_unsaved (asked : AskedToSave environment arguments name) (error : String)
    (made : Made (Settings.directoriesFor name) host.files after.files) :
    AllOrNothing environment arguments host ⟨.failure, "", error⟩ after where
  failure _ := ⟨rfl, made.content?⟩
  success succeeds := by cases succeeds
  content place differs := absurd (made.content? place) differs
  saved _ _ _ _ succeeds := by cases succeeds
  directories place differs _ := by
    rcases made.places place with same | ⟨nothing, stands, above, chain, resolved⟩
    · exact absurd same differs
    · exact ⟨nothing, stands, name, above, asked, chain, resolved⟩

theorem allOrNothing_of_saved (parsed : Invocation.parse environment arguments = .ok invocation)
    (command : invocation.command = .config (some name)) {settings : Settings} {text : String}
    {between : Host} {place : Place}
    (chosen : Settings.choice host.files.at? environment.homes invocation.config = .ok settings)
    (document : settings.document = .ok text)
    (made : Made (Settings.directoriesFor name) host.files between.files)
    (resolved : between.files.resolve (Path.ofString name) = .ok place)
    (free : between.files.get? place ≠ some .directory) :
    AllOrNothing environment arguments host ⟨.success, "", ""⟩
      { between with files := between.files.put place (.file text.toUTF8) } := by
  have asked : AskedToSave environment arguments name := ⟨invocation, parsed, command⟩
  have leads := (FileSystem.keepsDirectories_put free (.file text.toUTF8)).resolve resolved
  have written : (between.files.put place (.file text.toUTF8)).get? place
      = some (.file text.toUTF8) := FileSystem.get?_put_self (FileSystem.ne_nil_of_get? free) _
  have holds : (between.files.put place (.file text.toUTF8)).content? place = some text.toUTF8 := by
    rw [FileSystem.content?, written]
  have kept {other : Place} (differs : other ≠ place) :
      (between.files.put place (.file text.toUTF8)).get? other = between.files.get? other :=
    FileSystem.get?_put_of_ne differs _
  refine ⟨fun fails => absurd rfl fails, fun _ => rfl, fun other differs => ?_,
    fun asking named reads asks _ => ?_, fun other differs same => ?_⟩
  · by_cases here : other = place
    · subst here
      exact ⟨rfl, name, asked, leads⟩
    · have unchanged := FileSystem.content?_congr (kept here)
      exact absurd (unchanged.trans (made.content? other)) differs
  · obtain rfl := Except.ok.inj (parsed.symm.trans reads)
    obtain rfl : name = named := by simpa [command] using asks
    exact ⟨settings, text, place, by rw [Settings.run_select, chosen], document, leads, holds⟩
  · by_cases here : other = place
    · subst here
      -- the content is the same only if the very same file stood there
      have stood := FileSystem.get?_of_content? (same.symm.trans holds)
      exact absurd (written.trans stood.symm) differs
    · rcases made.places other with same | ⟨nothing, stands, above, chain, named⟩
      · exact absurd ((kept here).trans same) differs
      · exact ⟨nothing, (kept here).trans stands, name, above, asked, chain,
          (FileSystem.keepsDirectories_put free _).resolve named⟩

/-- **Runs do all that they are asked for, or nothing.** -/
theorem run_allOrNothing (environment : Environment) (arguments : List String) (host : Host) :
    AllOrNothing environment arguments host
      ((run environment arguments : StateM Host Outcome).run host).1
      ((run environment arguments : StateM Host Outcome).run host).2 := by
  have effect := run_effect environment arguments host
  generalize (run environment arguments : StateM Host Outcome).run host = ended at effect ⊢
  obtain ⟨outcome, after⟩ := ended
  cases effect with
  | printed other output => exact allOrNothing_of_printed other output
  | refused exit fails error => exact allOrNothing_of_refused exit fails error
  | unsaved asked error made => exact allOrNothing_of_unsaved asked error made
  | saved parsed command chosen document made resolved free =>
    exact allOrNothing_of_saved parsed command chosen document made resolved free

/-- Behind a slash no file can be written, but the directory above is there by then. -/
example :
    (fun ended : Outcome × Host => (ended.1.exit, ended.2.files.entries.map (·.1)))
      ((run ⟨none, none, none, ⟨none, none⟩⟩ ["config", "--save", "new/file/"] :
        StateM Host Outcome).run ⟨⟨[(["work"], .directory)], ["work"]⟩, .empty⟩)
      = (.failure, [["work", "new"], ["work"]]) := by
  decide +kernel

end CommandLine

end ExprLexer
