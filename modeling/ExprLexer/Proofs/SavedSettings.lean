import ExprLexer.Proofs.ArgumentRows
import ExprLexer.Proofs.DocumentText
import ExprLexer.Proofs.SelectedSettings
import Mathlib.Algebra.Group.Nat.Defs
import Mathlib.Tactic.SplitIfs

/-!
Settings that are saved and loaded again.

* `Settings.entries`: what the document of some settings holds, and `Settings.parse_of_document`: **a
  document is read as the settings that it was written for**, unless they allow no token;
* `Settings.exists_of_save`: what stands there once settings are saved;
* `FileSystem.Settled`, `Settings.makeWay_settled`: directories that were made once need not be made
  again, so that saving again succeeds and changes nothing;
* `Settings.Kept`: saved settings are loaded as they were, and stay;
* `CommandLine.run_show_saved`: a run that shows the settings shows the same after saving them;
* `saved_settings_kept`: **all of that, for any settings that have a document; others are not written,
  and those that allow no token are refused when they are loaded**.
-/

namespace ExprLexer

open FileSystem

/-! ### Documents of settings -/

namespace Settings

/-- What the document of some settings holds. -/
def entries (settings : Settings) : Toml.Entries :=
  [("format", .string settings.format.name), ("positions", .boolean settings.positions),
    ("max_tokens", .integer settings.maxTokens)]

/-- The name of a format is written between quotes as it is. -/
theorem plain_name (format : OutputFormat) :
    format.name.toList ≠ [] ∧ format.name.toList.all Toml.isUnescaped = true := by
  cases format <;> decide

/-- The rows of the document. -/
def rows (settings : Settings) (small : settings.maxTokens ≤ Toml.largestInteger) : List Toml.Row :=
  [.ofText "format".toList settings.format.name.toList (by decide) (by decide)
      (plain_name settings.format).1 (plain_name settings.format).2,
    .ofBoolean "positions".toList settings.positions (by decide) (by decide),
    .ofNatural "max_tokens".toList settings.maxTokens (by decide) (by decide) small]

variable {settings : Settings} {text : String}

theorem entries_rows (small : settings.maxTokens ≤ Toml.largestInteger) :
    (settings.rows small).map Toml.Row.entry = settings.entries := by
  simp [rows, entries, Toml.Row.entry, Toml.Row.ofText, Toml.Row.ofBoolean, Toml.Row.ofNatural]

/-- Settings have a document exactly if their number fits into one, and it consists of their rows. -/
theorem document_eq_ok_iff :
    settings.document = .ok text
      ↔ ∃ small, text = String.ofList ((settings.rows small).flatMap Toml.Row.text) := by
  unfold document
  by_cases large : Toml.largestInteger < settings.maxTokens
  · rw [if_pos large]
    exact ⟨nofun, fun ⟨small, _⟩ => absurd large (Nat.not_lt.mpr small)⟩
  · rw [if_neg large, Except.ok.injEq]
    have written (small : settings.maxTokens ≤ Toml.largestInteger) :
        String.ofList ((settings.rows small).flatMap Toml.Row.text)
          = "format = \"" ++ settings.format.name ++ "\"\npositions = "
            ++ (if settings.positions then "true" else "false") ++ "\nmax_tokens = "
            ++ toString settings.maxTokens ++ "\n" := by
      rw [← String.toList_inj, String.toList_ofList]
      cases positions : settings.positions <;>
        simp [rows, Toml.Row.text, Toml.Row.ofText, Toml.Row.ofBoolean, Toml.Row.ofNatural, positions]
    refine ⟨fun same => ⟨Nat.not_lt.mp large, ?_⟩, fun ⟨small, same⟩ => ?_⟩
    · rw [written, same]
    · rw [same, written]

/-- A document gives a setting for each of three keys. -/
theorem ofEntries?_eq_some_iff {entries : Toml.Entries} :
    ofEntries? entries = some settings
      ↔ keyOr entries "format" .plain format? = some settings.format
        ∧ keyOr entries "positions" false boolean? = some settings.positions
        ∧ keyOr entries "max_tokens" 10000 natural? = some settings.maxTokens := by
  unfold ofEntries?
  dsimp only
  cases keyOr entries "format" .plain format? with
  | none => simp
  | some format =>
    cases keyOr entries "positions" false boolean? with
    | none => simp
    | some positions =>
      cases keyOr entries "max_tokens" 10000 natural? with
      | none => simp
      | some maxTokens =>
        obtain ⟨f, p, m⟩ := settings
        simp

theorem natural?_eq_some_iff {item : Toml.Item} {number : Nat} :
    natural? item = some number ↔ item = .integer number := by
  refine ⟨fun found => ?_, ?_⟩
  · cases item with
    | integer value =>
      rw [natural?] at found
      split_ifs at found with positive
      obtain rfl := Option.some.inj found
      rw [Int.toNat_of_nonneg positive]
    | _ => cases found
  · rintro rfl
    rw [natural?, if_pos (Int.natCast_nonneg number), Int.toNat_natCast]

theorem ofEntries?_entries (settings : Settings) : ofEntries? settings.entries = some settings :=
  ofEntries?_eq_some_iff.mpr
    ⟨OutputFormat.ofName?_name settings.format, rfl, natural?_eq_some_iff.mpr rfl⟩

/-- **A document is read as the settings that it was written for**, which are then checked. -/
theorem parse_of_document (document : settings.document = .ok text) : parse text = settings.check := by
  obtain ⟨small, rfl⟩ := document_eq_ok_iff.mp document
  have distinct : (((settings.rows small).map Toml.Row.entry).map (·.1)).Nodup := by
    rw [entries_rows]
    show ["format", "positions", "max_tokens"].Nodup
    decide
  unfold parse
  rw [Toml.parse?_rows _ distinct, entries_rows]
  dsimp only
  rw [ofEntries?_entries]

/-- Settings whose number does not fit have no document. -/
theorem document_of_large (large : Toml.largestInteger < settings.maxTokens) :
    settings.document = .error (.unwritable "a number out of range") := if_pos large

end Settings

/-! ### Files with a text -/

theorem fromUTF8?_toUTF8 (text : String) : String.fromUTF8? text.toUTF8 = some text := by
  unfold String.fromUTF8?
  split
  · rfl
  · next invalid => exact absurd text.isValidUTF8 invalid

/-- A file with some text stands at a path. -/
def Host.TextAt (host : Host) (path : Path) (text : String) : Prop :=
  ∃ content, host.files.at? path = some (.file content) ∧ String.fromUTF8? content = some text

/-- Loading a file reads its text. -/
theorem Settings.run_load {host : Host} {name text : String}
    (file : host.TextAt (Path.ofString name) text) :
    (Settings.load name : StateM Host _).run host
      = ((Settings.parse text).mapError .settings, host) := by
  obtain ⟨content, stands, decoded⟩ := file
  rw [Settings.load, Settings.run_loadFrom, stands, Settings.ofEntry, decode, decoded]

/-! ### Directories that are there already -/

namespace FileSystem

/-- Nothing is left to make on the way to a path: it is empty, or a directory stands there. -/
def Settled (files : FileSystem) (path : Path) : Prop :=
  path.isEmpty = true ∨ files.isDirectory path = true

theorem isDirectory_iff {files : FileSystem} {path : Path} :
    files.isDirectory path = true
      ↔ ∃ place, files.resolve path = .ok place ∧ files.get? place = some .directory := by
  unfold isDirectory
  cases files.resolve path with
  | error error => simp
  | ok place =>
    dsimp only
    cases stands : files.get? place with
    | none => simp [stands]
    | some entry =>
      cases entry with
      | directory => simp [stands]
      | file content => simp [stands]

theorem KeepsDirectories.settled {before after : FileSystem} (keeps : KeepsDirectories before after)
    {path : Path} (settled : before.Settled path) : after.Settled path := by
  refine settled.imp_right fun there => ?_
  obtain ⟨place, resolved, stands⟩ := isDirectory_iff.mp there
  exact isDirectory_iff.mpr ⟨place, keeps.resolve resolved, keeps.directory place stands⟩

end FileSystem

/-- Making a directory unless one is there. -/
theorem run_settleDirectory (path : Path) (host : Host) :
    (settleDirectory path : StateM Host _).run host
      = match host.files.makeDirectory path with
        | .ok files => (.ok (), { host with files })
        | .error error => (if host.files.isDirectory path then .ok () else .error error, host) := by
  have action : (FileAccess.makeDirectory path : StateM Host _).run host
      = (Host.change (·.makeDirectory path)).run host := rfl
  rw [settleDirectory, Host.run_bind, action, Host.run_change]
  cases host.files.makeDirectory path <;> rfl

theorem isDirectory_of_settleDirectory {path : Path} {host after : Host}
    (done : (settleDirectory path : StateM Host _).run host = (.ok (), after)) :
    after.files.isDirectory path = true := by
  rw [run_settleDirectory] at done
  cases made : host.files.makeDirectory path with
  | ok files =>
    rw [made] at done
    obtain ⟨-, rfl⟩ := Prod.mk.inj done
    obtain ⟨place, resolved, nothing, rfl⟩ := exists_of_makeDirectory made
    have free : host.files.get? place ≠ some .directory := by simp [nothing]
    exact isDirectory_iff.mpr ⟨place, (keepsDirectories_put free _).resolve resolved,
      get?_put_self (ne_nil_of_get? free) _⟩
  | error error =>
    rw [made] at done
    obtain ⟨outcome, rfl⟩ := Prod.mk.inj done
    by_cases there : host.files.isDirectory path = true
    · exact there
    · rw [if_neg there] at outcome
      cases outcome

/-- A directory that was made is there. -/
theorem settled_of_ensureDirectory {path : Path} {host after : Host}
    (done : (ensureDirectory path : StateM Host _).run host = (.ok (), after)) :
    after.files.Settled path := by
  by_cases empty : path.isEmpty = true
  · exact Or.inl empty
  · refine Or.inr ?_
    rw [ensureDirectory, if_neg empty, Host.run_bind] at done
    split at done
    · -- nothing was there to make it in, so what is above was made first
      split at done
      · cases (Prod.mk.inj done).1
      · next parent above =>
        rw [Host.run_bind] at done
        split at done
        · exact isDirectory_of_settleDirectory done
        · cases (Prod.mk.inj done).1
    · next outcome other =>
      obtain ⟨success, rfl⟩ := Prod.mk.inj done
      exact isDirectory_of_settleDirectory (Prod.ext success rfl)

/-- Where a directory is, making it does nothing. -/
theorem run_ensureDirectory_of_settled {path : Path} {host : Host}
    (settled : host.files.Settled path) :
    (ensureDirectory path : StateM Host _).run host = (.ok (), host) := by
  by_cases empty : path.isEmpty = true
  · rw [ensureDirectory, if_pos empty]
    rfl
  · have there : host.files.isDirectory path = true := settled.resolve_left empty
    obtain ⟨place, resolved, stands⟩ := isDirectory_iff.mp there
    have refused : host.files.makeDirectory path = .error .fileExists := by
      simp only [makeDirectory, resolved, stands, Except.bind]
    have idle : (settleDirectory path : StateM Host _).run host = (.ok (), host) := by
      rw [run_settleDirectory, refused]
      dsimp only
      rw [if_pos there]
    rw [ensureDirectory, if_neg empty, Host.run_bind, idle]
    rfl

namespace Settings

/-- **Once way is made for a file, nothing is left to do for it** as long as directories stay. -/
theorem makeWay_settled {path : Path} {host between later : Host}
    (done : (makeWay path).run host = (.ok (), between))
    (keeps : KeepsDirectories between.files later.files) :
    (makeWay path).run later = (.ok (), later) := by
  unfold makeWay at done ⊢
  split
  · next parent above =>
    rw [above] at done
    exact run_ensureDirectory_of_settled (keeps.settled (settled_of_ensureDirectory done))
  · rfl

/-! ### Saving -/

/-- Settings were saved: way was made, and then their document was written where it could be. -/
theorem exists_of_save {settings : Settings} {name : String} {host after : Host}
    (done : (settings.save name : StateM Host _).run host = (.ok (), after)) :
    ∃ between text place, (makeWay (Path.ofString name)).run host = (.ok (), between)
      ∧ settings.document = .ok text ∧ between.files.Writable (Path.ofString name) place
      ∧ after = { between with files := between.files.put place (.file text.toUTF8) } := by
  rw [run_save] at done
  generalize makes : (makeWay (Path.ofString name)).run host = outcome at done
  obtain ⟨above, between⟩ := outcome
  cases above with
  | error error => cases (Prod.mk.inj done).1
  | ok _ =>
    dsimp only at done
    cases document : settings.document with
    | error error =>
      rw [document] at done
      cases (Prod.mk.inj done).1
    | ok text =>
      rw [document] at done
      dsimp only at done
      cases written : between.files.write (Path.ofString name) text.toUTF8 with
      | error error =>
        rw [written] at done
        cases (Prod.mk.inj done).1
      | ok files =>
        rw [written] at done
        obtain ⟨-, rfl⟩ := Prod.mk.inj done
        obtain ⟨place, writable, rfl⟩ := exists_of_write written
        exact ⟨between, text, place, rfl, rfl, writable, rfl⟩

/-- What stands at a path once settings are saved to it: their document. -/
theorem at?_of_save {settings : Settings} {name : String} {host after : Host}
    (done : (settings.save name : StateM Host _).run host = (.ok (), after)) :
    ∃ text, settings.document = .ok text
      ∧ after.files.at? (Path.ofString name) = some (.file text.toUTF8) := by
  obtain ⟨between, text, place, -, document, writable, rfl⟩ := exists_of_save done
  have keeps := keepsDirectories_put writable.free (.file text.toUTF8)
  refine ⟨text, document, ?_⟩
  rw [at?, keeps.resolve writable.resolve]
  dsimp only
  rw [get?_put_self (ne_nil_of_get? writable.free), writable.plain]
  rfl

/-- **Saving again succeeds, and whatever stands anywhere stays.** -/
theorem save_again {settings : Settings} {name : String} {host after : Host}
    (done : (settings.save name : StateM Host _).run host = (.ok (), after)) :
    ∃ again, (settings.save name : StateM Host _).run after = (.ok (), again)
      ∧ ∀ place, again.files.get? place = after.files.get? place := by
  obtain ⟨between, text, place, makes, document, writable, rfl⟩ := exists_of_save done
  have named : place ≠ [] := ne_nil_of_get? writable.free
  have keeps := keepsDirectories_put writable.free (.file text.toUTF8)
  have stands : (between.files.put place (.file text.toUTF8)).get? place
      = some (.file text.toUTF8) := get?_put_self named _
  have writable : (between.files.put place (.file text.toUTF8)).Writable (Path.ofString name) place :=
    writable.mono keeps (by rw [stands]; nofun)
  refine ⟨⟨(between.files.put place (.file text.toUTF8)).put place (.file text.toUTF8),
    between.input⟩, ?_, fun other => ?_⟩
  · rw [run_save, makeWay_settled makes keeps, document]
    dsimp only
    rw [writable.write]
  · by_cases same : other = place
    · rw [same, get?_put_self named, stands]
    · exact get?_put_of_ne same _

/-- Saved settings are loaded as they were, their document is what the file holds, and saving them
again changes nothing. -/
structure Kept (settings : Settings) (name : String) (after : Host) : Prop where
  loaded : (load name : StateM Host _).run after = (.ok settings, after)
  written : ∃ text, settings.document = .ok text
    ∧ after.files.read (Path.ofString name) = .ok text.toUTF8
  again : ∃ again, (settings.save name : StateM Host _).run after = (.ok (), again)
    ∧ ∀ place, again.files.get? place = after.files.get? place

/-- Loading what was saved checks the settings. -/
theorem run_load_of_save {settings : Settings} {name : String} {host after : Host}
    (done : (settings.save name : StateM Host _).run host = (.ok (), after)) :
    (load name : StateM Host _).run after = (settings.check.mapError .settings, after) := by
  obtain ⟨text, document, stands⟩ := at?_of_save done
  rw [run_load ⟨_, stands, fromUTF8?_toUTF8 text⟩, parse_of_document document]

theorem kept_of_save {settings : Settings} {name : String} {host after : Host}
    (allows : 1 ≤ settings.maxTokens)
    (done : (settings.save name : StateM Host _).run host = (.ok (), after)) :
    settings.Kept name after where
  loaded := by
    rw [run_load_of_save done, check, if_neg (by omega)]
    rfl
  written := by
    obtain ⟨text, document, stands⟩ := at?_of_save done
    exact ⟨text, document, read_of_at? stands⟩
  again := save_again done

/-- Settings that have no document are not saved, and no file is changed. -/
theorem save_of_large {settings : Settings} (large : Toml.largestInteger < settings.maxTokens)
    (name : String) (host : Host) :
    (∃ failure, ((settings.save name : StateM Host _).run host).1 = .error failure)
      ∧ ∀ place, ((settings.save name : StateM Host _).run host).2.files.content? place
        = host.files.content? place := by
  have saving := saved settings name host
  generalize (settings.save name : StateM Host _).run host = ended at saving ⊢
  obtain ⟨outcome, after⟩ := ended
  cases saving with
  | failed made => exact ⟨⟨_, rfl⟩, made.content?⟩
  | written made document =>
    rw [document_of_large large] at document
    cases document

/-- Settings that are chosen allow a token. -/
theorem allows_of_choice {files : FileSystem} {homes : Homes} {config : Option String}
    {settings : Settings} (chosen : choice files.at? homes config = .ok settings) :
    1 ≤ settings.maxTokens := by
  have loaded {name : String} {entry : Option Entry} (loads : ofEntry name entry = .ok settings) :
      1 ≤ settings.maxTokens := by
    cases entry with
    | none => cases loads
    | some entry =>
      obtain ⟨-, -, -, allows⟩ := ofEntry_eq_ok_iff.mp loads
      omega
  rw [choice_eq] at chosen
  split at chosen
  · exact loaded chosen
  · split at chosen
    · cases chosen
    · obtain rfl := Except.ok.inj chosen
      decide

end Settings

/-! ### Runs -/

namespace CommandLine

variable {environment : Environment}

/-- The value of the last option is checked when the level ends. -/
theorem Level.finish_unchecked {level : Level} {name : OptionName} {value : String} :
    level.finish environment { unchecked := some (name, value) }
      = if level.accepts name value && environment.isUsable { options := [(name, value)] } then
          .ok { options := [(name, value)] }
        else .error .misuse := by
  have settled : level.settle { unchecked := some (name, value) }
      = if level.accepts name value then .ok { options := [(name, value)] } else .error .misuse := by
    show (if false || !level.accepts name value then _ else _) = _
    cases level.accepts name value <;> rfl
  rw [finish, settled]
  cases level.accepts name value <;> rfl

/-- What is asked for by the command that shows the settings of a file. -/
def showing (environment : Environment) (config : Option String) : Invocation :=
  ⟨environment.verbose == some "true", environment.noColor == some "true", config, .config none⟩

variable {name : String}

theorem parse_show (usable : environment.isUsable {} = true) :
    Invocation.parse environment ["config"] = .ok (showing environment environment.config) := by
  have finished (level : Level) : level.finish environment {} = .ok {} := if_pos usable
  show parseCommand environment {} "config" configLevel configCommand [] = _
  unfold parseCommand
  show (Except.mapError _ (configLevel.finish environment {})).bind _ = _
  rw [finished]
  show (Except.mapError _ (programLevel.finish environment {})).bind _ = _
  rw [finished]
  rfl

theorem parse_show_named (usable : environment.isUsable {} = true) (named : name.isEmpty = false)
    (plain : Level.looksLikeOption name = false) :
    Invocation.parse environment ["--config", name, "config"]
      = .ok (showing environment (some name)) := by
  have reads : programLevel.read {} ["--config", name, "config"]
      = .ok ({ unchecked := some (.config, name) }, some ("config", [])) := by
    rw [Level.read_valued {} rfl rfl (by decide) rfl, plain]
    rfl
  have finished : configLevel.finish environment {} = .ok {} := if_pos usable
  have usableNamed : environment.isUsable { options := [(.config, name)] } = true := by
    unfold Environment.isUsable at usable ⊢
    rw [Bool.and_eq_true, Bool.and_eq_true] at usable ⊢
    exact ⟨⟨usable.1.1, rfl⟩, usable.2⟩
  have accepted : programLevel.accepts .config name = true := by
    show (!name.isEmpty) = true
    rw [named]
    rfl
  rw [Invocation.parse, reads]
  show parseCommand environment { unchecked := some (.config, name) } "config" configLevel
    configCommand [] = _
  unfold parseCommand
  show (Except.mapError _ (configLevel.finish environment {})).bind _ = _
  rw [finished]
  show (Except.mapError _
    (programLevel.finish environment { unchecked := some (.config, name) })).bind _ = _
  rw [Level.finish_unchecked, accepted, usableNamed]
  rfl

/-- Saving is asked for, or the arguments are misused. -/
theorem parse_save (environment : Environment) (name : String) :
    Invocation.parse environment ["config", "--save", name] = .error (.misuse, some "config")
      ∨ Invocation.parse environment ["config", "--save", name]
          = .ok { showing environment environment.config with command := .config (some name) }
        ∧ environment.isUsable {} = true ∧ name.isEmpty = false
        ∧ Level.looksLikeOption name = false := by
  have reads : configLevel.read {} ["--save", name]
      = if Level.looksLikeOption name then .error .misuse
        else .ok ({ unchecked := some (.save, name) }, none) :=
    Level.read_valued {} rfl rfl (by decide) rfl
  have begins : Invocation.parse environment ["config", "--save", name]
      = parseCommand environment {} "config" configLevel configCommand ["--save", name] := rfl
  rw [begins, parseCommand, reads]
  cases plain : Level.looksLikeOption name with
  | true => exact Or.inl rfl
  | false =>
    have finishes : configLevel.finish environment { unchecked := some (.save, name) }
        = if !name.isEmpty && environment.isUsable {} then .ok { options := [(.save, name)] }
          else .error .misuse :=
      Level.finish_unchecked
    by_cases accepted : (!name.isEmpty && environment.isUsable {}) = true
    · obtain ⟨named, usable⟩ := Bool.and_eq_true_iff.mp accepted
      have finished : programLevel.finish environment {} = .ok {} := if_pos usable
      refine Or.inr ⟨?_, usable, by simpa using named, rfl⟩
      show (Except.mapError _
        (configLevel.finish environment { unchecked := some (.save, name) })).bind _ = _
      rw [finishes, if_pos accepted]
      show (Except.mapError _ (programLevel.finish environment {})).bind _ = _
      rw [finished]
      rfl
    · refine Or.inl ?_
      show (Except.mapError _
        (configLevel.finish environment { unchecked := some (.save, name) })).bind _ = _
      rw [finishes, if_neg accepted]
      rfl

/-- **A run that shows the settings of a file to which they were saved prints what the file holds, and
that is what it would have printed before.** -/
theorem run_show_saved {host after : Host} {outcome : Outcome} (success : outcome.exit = .success)
    (saves : (run environment ["config", "--save", name] : StateM Host _).run host
      = (outcome, after)) :
    ∃ text, after.files.read (Path.ofString name) = .ok text.toUTF8
      ∧ (run environment ["config"] : StateM Host _).run host = (⟨.success, text, ""⟩, host)
      ∧ (run environment ["--config", name, "config"] : StateM Host _).run after
        = (⟨.success, text, ""⟩, after) := by
  rcases parse_save environment name with misused | ⟨parsed, usable, named, plain⟩
  · rw [run_of_stop misused] at saves
    obtain ⟨rfl, -⟩ := Prod.mk.inj saves
    cases success
  · rw [run_of_parse parsed, run_perform] at saves
    rw [run_of_parse (parse_show usable), run_of_parse (parse_show_named usable named plain),
      run_perform, run_perform]
    dsimp only [showing] at saves ⊢
    cases chosen : Settings.choice host.files.at? environment.homes environment.config with
    | error failure =>
      rw [chosen] at saves
      obtain ⟨rfl, -⟩ := Prod.mk.inj saves
      cases success
    | ok settings =>
      rw [chosen] at saves
      dsimp only at saves
      rw [run_execute_save] at saves
      obtain ⟨shown, left⟩ := Prod.mk.inj saves
      cases result : ((settings.save name : StateM Host _).run host).1 with
      | error failure =>
        rw [result] at shown
        rw [← shown] at success
        cases success
      | ok _ =>
        -- the settings chosen were saved, so they are what the file gives now
        have kept := Settings.kept_of_save (Settings.allows_of_choice chosen)
          (Prod.ext result left)
        have loaded := kept.loaded
        rw [Settings.load, Settings.run_loadFrom] at loaded
        have again : Settings.choice after.files.at? environment.homes (some name) = .ok settings :=
          (Prod.mk.inj loaded).1
        obtain ⟨text, document, holds⟩ := kept.written
        refine ⟨text, holds, ?_, ?_⟩
        · dsimp only
          rw [run_execute_show, document]
          rfl
        · rw [again]
          dsimp only
          rw [run_execute_show, document]
          rfl

end CommandLine

/-- **Settings outlive being saved.**  Those that allow a token are loaded as they were, and a run that
shows them prints the same; those that have no document leave all files as they are; and those that allow
no token are refused when they are loaded. -/
theorem saved_settings_kept :
    (∀ (settings : Settings) (name : String) (host after : Host), 1 ≤ settings.maxTokens →
      (settings.save name : StateM Host _).run host = (.ok (), after) → settings.Kept name after)
    ∧ (∀ (environment : CommandLine.Environment) (name : String) (host after : Host)
        (outcome : CommandLine.Outcome), outcome.exit = .success →
      (CommandLine.run environment ["config", "--save", name] : StateM Host _).run host
        = (outcome, after) →
      ∃ text, after.files.read (Path.ofString name) = .ok text.toUTF8
        ∧ (CommandLine.run environment ["config"] : StateM Host _).run host
          = (⟨.success, text, ""⟩, host)
        ∧ (CommandLine.run environment ["--config", name, "config"] : StateM Host _).run after
          = (⟨.success, text, ""⟩, after))
    ∧ (∀ (settings : Settings) (name : String) (host : Host),
      Toml.largestInteger < settings.maxTokens →
      (∃ failure, ((settings.save name : StateM Host _).run host).1 = .error failure)
        ∧ ∀ place, ((settings.save name : StateM Host _).run host).2.files.content? place
          = host.files.content? place)
    ∧ ∀ (settings : Settings) (name : String) (host after : Host), settings.maxTokens = 0 →
      (settings.save name : StateM Host _).run host = (.ok (), after) →
      (Settings.load name : StateM Host _).run after = (.error (.settings .noTokens), after) := by
  refine ⟨fun settings name host after allows done => Settings.kept_of_save allows done,
    fun environment name host after outcome success saves =>
      CommandLine.run_show_saved success saves,
    fun settings name host large => Settings.save_of_large large name host,
    fun settings name host after none done => ?_⟩
  rw [Settings.run_load_of_save done, Settings.check, if_pos none]
  rfl

/-- Below a directory that is still to be made, all of this happens. -/
theorem saved_settings_kept_nested :
    ∃ host : Host,
      (⟨.json, true, 64⟩ : Settings).Kept "nested/calxt.toml"
        (((⟨.json, true, 64⟩ : Settings).save "nested/calxt.toml" : StateM Host _).run host).2
      ∧ (∃ text, (CommandLine.run .bare ["config"] : StateM Host _).run host
          = (⟨.success, text, ""⟩, host))
      ∧ (∃ failure, (((⟨.plain, false, 2 ^ 63⟩ : Settings).save "nested/calxt.toml"
          : StateM Host _).run host).1 = .error failure)
      ∧ ∃ after, (Settings.load "nested/calxt.toml" : StateM Host _).run after
          = (.error (.settings .noTokens), after) := by
  obtain ⟨kept, shown, large, none⟩ := saved_settings_kept
  let host : Host := ⟨⟨[(["work"], .directory)], ["work"]⟩, .empty⟩
  have saves (settings : Settings) (done : ((settings.save "nested/calxt.toml" : StateM Host _).run host).1
      = .ok ()) : (settings.save "nested/calxt.toml" : StateM Host _).run host
        = (.ok (), ((settings.save "nested/calxt.toml" : StateM Host _).run host).2) :=
    Prod.ext done rfl
  refine ⟨host, kept ⟨.json, true, 64⟩ _ host _ (by decide) (saves _ (by decide +kernel)), ?_,
    (large ⟨.plain, false, 2 ^ 63⟩ _ host (by decide)).1, _,
    none ⟨.plain, false, 0⟩ _ host _ rfl (saves _ (by decide +kernel))⟩
  obtain ⟨text, -, shows, -⟩ := shown .bare "nested/calxt.toml" host _ _ (by decide +kernel) rfl
  exact ⟨text, shows⟩

end ExprLexer
