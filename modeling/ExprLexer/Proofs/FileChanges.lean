import ExprLexer.Proofs.HostRuns
import Mathlib.Data.List.Basic
import Mathlib.Logic.Relation

/-!
What operations on a file system change.

* `FileSystem.content?`: the content of the file at a place;
* `FileSystem.KeepsDirectories.resolve`: **where directories stay, a path that led to a place leads
  there still**;
* `FileSystem.exists_of_makeDirectory`, `FileSystem.exists_of_write`: what is put where by the two
  operations that change something, and `FileSystem.Writable`: where a file can be written;
* `FileSystem.Made`: directories were made at places that some paths name, and nothing else changed;
* `made_ensureDirectory`: **making a directory with those above it does that along its path**;
* `Settings.Saved`: what saving can do, and `Settings.saved`: **saving makes directories above the file,
  and writes the file as its last step**.

The directories made on the way are named by the path and by paths above it, in the file system that
results: each step adds directories only, so that what an earlier step resolved stays as it was.
-/

namespace ExprLexer

/-- A step that succeeds follows one that does. -/
theorem exists_of_bind_ok {ε α β : Type} {first : Except ε α} {next : α → Except ε β} {result : β}
    (done : first.bind next = .ok result) : ∃ value, first = .ok value ∧ next value = .ok result := by
  cases first with
  | error error => cases done
  | ok value => exact ⟨value, rfl, done⟩

namespace FileSystem

variable {files before between after : FileSystem}

/-! ### What stands at a place -/

/-- The content of the file at a place, if a file stands there. -/
def content? (files : FileSystem) (place : Place) : Option ByteArray :=
  match files.get? place with
  | some (.file content) => some content
  | _ => none

theorem content?_congr {place : Place} (same : after.get? place = before.get? place) :
    after.content? place = before.content? place := by
  rw [content?, content?, same]

theorem get?_of_content? {place : Place} {content : ByteArray}
    (holds : files.content? place = some content) :
    files.get? place = some (.file content) := by
  unfold content? at holds
  split at holds
  · next stands => rw [stands, Option.some.inj holds]
  · cases holds

theorem get?_put_self {place : Place} (named : place ≠ []) (entry : Entry) :
    (files.put place entry).get? place = some entry := by
  rw [get?, List.isEmpty_eq_false_iff.mpr named]
  exact List.lookup_cons_self

theorem get?_put_of_ne {place other : Place} (differs : other ≠ place) (entry : Entry) :
    (files.put place entry).get? other = files.get? other := by
  unfold get?
  split
  · rfl
  · show List.lookup other ((place, entry) :: files.entries) = _
    rw [List.lookup_cons, beq_false_of_ne differs]

theorem ne_nil_of_get? {place : Place} (other : files.get? place ≠ some .directory) :
    place ≠ [] := by
  rintro rfl
  exact other rfl

/-! ### Walks -/

theorem directory_of_needDirectory {place : Place} (needed : files.needDirectory place = .ok ()) :
    files.get? place = some .directory := by
  unfold needDirectory at needed
  split at needed
  · cases needed
  · cases needed
  · assumption

theorem needDirectory_of_directory {place : Place} (stands : files.get? place = some .directory) :
    files.needDirectory place = .ok () := by
  rw [needDirectory, stands]

/-- A walk along more names goes on from where the first ones lead. -/
theorem walk_append (files : FileSystem) (place : Place) (names later : List String) :
    files.walk place (names ++ later)
      = (files.walk place names).bind fun next => files.walk next later := by
  induction names generalizing place with
  | nil => rfl
  | cons name names ih =>
    rw [List.cons_append, walk, walk]
    cases files.step place name with
    | error error => rfl
    | ok next => exact ih next

/-- Directories stay, and so does the place where paths begin. -/
structure KeepsDirectories (before after : FileSystem) : Prop where
  workingDirectory : after.workingDirectory = before.workingDirectory
  directory : ∀ place, before.get? place = some .directory → after.get? place = some .directory

namespace KeepsDirectories

theorem step (keeps : KeepsDirectories before after) {place next : Place} {name : String}
    (stepped : before.step place name = .ok next) : after.step place name = .ok next := by
  obtain ⟨⟨⟩, needed, named⟩ := exists_of_bind_ok stepped
  have stands := keeps.directory place (directory_of_needDirectory needed)
  rw [FileSystem.step, needDirectory_of_directory stands]
  exact named

theorem walk (keeps : KeepsDirectories before after) {place final : Place} {names : List String}
    (walked : before.walk place names = .ok final) : after.walk place names = .ok final := by
  induction names generalizing place with
  | nil => exact walked
  | cons name names ih =>
    obtain ⟨next, stepped, later⟩ := exists_of_bind_ok walked
    rw [FileSystem.walk, keeps.step stepped]
    exact ih later

theorem origin (keeps : KeepsDirectories before after) (path : Path) :
    after.origin path = before.origin path := by
  rw [FileSystem.origin, FileSystem.origin, keeps.workingDirectory]

/-- **A path that led to a place leads there still.** -/
theorem resolve (keeps : KeepsDirectories before after) {path : Path} {place : Place}
    (resolved : before.resolve path = .ok place) : after.resolve path = .ok place := by
  obtain ⟨start, begins, walked⟩ := exists_of_bind_ok resolved
  rw [FileSystem.resolve, keeps.origin, begins]
  exact keeps.walk walked

end KeepsDirectories

/-- Something put where no directory stands leaves the directories. -/
theorem keepsDirectories_put {place : Place} (free : files.get? place ≠ some .directory)
    (entry : Entry) : KeepsDirectories files (files.put place entry) := by
  refine ⟨rfl, fun other stands => ?_⟩
  have differs : other ≠ place := by
    rintro rfl
    exact free stands
  rw [get?_put_of_ne differs]
  exact stands

/-! ### The operations that change something -/

/-- A directory is made at the place that its path names, where nothing stood. -/
theorem exists_of_makeDirectory {path : Path} (made : files.makeDirectory path = .ok after) :
    ∃ place, files.resolve path = .ok place ∧ files.get? place = none
      ∧ after = files.put place .directory := by
  obtain ⟨place, resolved, put⟩ := exists_of_bind_ok made
  cases stands : files.get? place with
  | none =>
    rw [stands] at put
    exact ⟨place, resolved, stands, (Except.ok.inj put).symm⟩
  | some entry =>
    rw [stands] at put
    cases put

/-- A file can be written where a path leads: the last name of the path stands in a directory, no
slash follows it, and no directory stands there. -/
structure Writable (files : FileSystem) (path : Path) (place : Place) : Prop where
  named : ∃ start directory name, files.origin path = .ok start
    ∧ files.walk start path.names.dropLast = .ok directory
    ∧ path.names.getLast? = some name ∧ files.step directory name = .ok place
  plain : path.trailing = false
  free : files.get? place ≠ some .directory

namespace Writable

variable {path : Path} {place : Place}

theorem resolve (writable : files.Writable path place) : files.resolve path = .ok place := by
  obtain ⟨start, directory, name, begins, walked, last, stepped⟩ := writable.named
  have names : path.names = path.names.dropLast ++ [name] :=
    (List.dropLast_append_getLast? name last).symm
  rw [FileSystem.resolve, begins, Except.bind, names, walk_append, walked, Except.bind, walk, stepped]
  rfl

theorem write (writable : files.Writable path place) (content : ByteArray) :
    files.write path content = .ok (files.put place (.file content)) := by
  obtain ⟨start, directory, name, begins, walked, last, stepped⟩ := writable.named
  obtain ⟨⟨⟩, needed, -⟩ := exists_of_bind_ok stepped
  have free := writable.free
  unfold FileSystem.write
  rw [begins, last, writable.plain]
  show (files.walk start path.names.dropLast).bind _ = _
  rw [walked]
  show (files.needDirectory directory).bind _ = _
  rw [needed]
  show (files.step directory name).bind _ = _
  rw [stepped, Except.bind]
  split
  · contradiction
  · rfl

/-- Where directories stay, a file can be written that could be written before. -/
theorem mono (writable : before.Writable path place) (keeps : KeepsDirectories before after)
    (free : after.get? place ≠ some .directory) : after.Writable path place := by
  obtain ⟨start, directory, name, begins, walked, last, stepped⟩ := writable.named
  exact ⟨⟨start, directory, name, (keeps.origin path).trans begins, keeps.walk walked, last,
    keeps.step stepped⟩, writable.plain, free⟩

end Writable

/-- A file is written at the place that its path names, where no directory stood. -/
theorem exists_of_write {path : Path} {content : ByteArray}
    (written : files.write path content = .ok after) :
    ∃ place, files.Writable path place ∧ after = files.put place (.file content) := by
  obtain ⟨start, begins, written⟩ := exists_of_bind_ok written
  obtain ⟨directory, walked, written⟩ := exists_of_bind_ok written
  obtain ⟨⟨⟩, needed, written⟩ := exists_of_bind_ok written
  split at written
  · next name last plain =>
    obtain ⟨place, stepped, written⟩ := exists_of_bind_ok written
    split at written
    · cases written
    · next free =>
      exact ⟨place, ⟨⟨start, directory, name, begins, walked, last, stepped⟩, plain, free⟩,
        (Except.ok.inj written).symm⟩
  · cases written

/-! ### Making directories -/

/-- Directories were made where nothing stood, at places that some paths name, and nothing else
changed. -/
structure Made (paths : Path → Prop) (before after : FileSystem) : Prop where
  workingDirectory : after.workingDirectory = before.workingDirectory
  places : ∀ place, after.get? place = before.get? place
    ∨ before.get? place = none ∧ after.get? place = some .directory
      ∧ ∃ path, paths path ∧ after.resolve path = .ok place

namespace Made

variable {paths others : Path → Prop}

theorem refl (paths : Path → Prop) (files : FileSystem) : Made paths files files :=
  ⟨rfl, fun _ => Or.inl rfl⟩

theorem mono (made : Made paths before after) (more : ∀ path, paths path → others path) :
    Made others before after := by
  refine ⟨made.workingDirectory, fun place => (made.places place).imp_right ?_⟩
  rintro ⟨nothing, stands, path, named, resolved⟩
  exact ⟨nothing, stands, path, more path named, resolved⟩

theorem keepsDirectories (made : Made paths before after) : KeepsDirectories before after := by
  refine ⟨made.workingDirectory, fun place stands => ?_⟩
  rcases made.places place with same | ⟨nothing, -⟩
  · rw [same]
    exact stands
  · cases nothing.symm.trans stands

theorem trans (first : Made paths before between) (second : Made paths between after) :
    Made paths before after := by
  refine ⟨second.workingDirectory.trans first.workingDirectory, fun place => ?_⟩
  rcases second.places place with same | ⟨nothing, stands, named⟩
  · rw [same]
    -- what the first step made is named in the final file system as well
    refine (first.places place).imp_right ?_
    rintro ⟨nothing, stands, path, named, resolved⟩
    exact ⟨nothing, stands, path, named, second.keepsDirectories.resolve resolved⟩
  · rcases first.places place with same | ⟨_, stood, _⟩
    · exact Or.inr ⟨same ▸ nothing, stands, named⟩
    · cases stood.symm.trans nothing

/-- No file is changed. -/
theorem content? (made : Made paths before after) (place : Place) :
    after.content? place = before.content? place := by
  rcases made.places place with same | ⟨nothing, stands, -⟩
  · exact content?_congr same
  · rw [FileSystem.content?, FileSystem.content?, nothing, stands]

end Made

theorem made_makeDirectory {path : Path} (made : files.makeDirectory path = .ok after) :
    Made (· = path) files after := by
  obtain ⟨place, resolved, nothing, rfl⟩ := exists_of_makeDirectory made
  have free : files.get? place ≠ some .directory := by simp [nothing]
  refine ⟨rfl, fun other => ?_⟩
  by_cases same : other = place
  · subst same
    exact Or.inr ⟨nothing, get?_put_self (ne_nil_of_get? free) _, path, rfl,
      (keepsDirectories_put free _).resolve resolved⟩
  · exact Or.inl (get?_put_of_ne same _)

end FileSystem

/-! ### Runs on a host -/

/-- The path right above another. -/
def Path.IsParent (path above : Path) : Prop := path.parent? = some above

open FileSystem (Made)

theorem made_settleDirectory (path : Path) (host : Host) :
    Made (· = path) host.files ((settleDirectory path : StateM Host _).run host).2.files := by
  rw [settleDirectory, Host.run_bind]
  have action : (FileAccess.makeDirectory path : StateM Host _).run host
      = (Host.change (·.makeDirectory path)).run host := rfl
  rw [action, Host.run_change]
  cases made : host.files.makeDirectory path with
  | ok files => exact FileSystem.made_makeDirectory made
  | error error => exact Made.refl _ _

/-- **Making a directory with those above it makes directories along its path, and does nothing
else.** -/
theorem made_ensureDirectory (path : Path) (host : Host) :
    Made (Relation.ReflTransGen Path.IsParent path) host.files
      ((ensureDirectory path : StateM Host _).run host).2.files := by
  induction path using ensureDirectory.induct generalizing host with
  | case1 path empty =>
    rw [ensureDirectory, if_pos empty]
    exact Made.refl _ _
  | case2 path named ih =>
    have here (host : Host) : Made (Relation.ReflTransGen Path.IsParent path) host.files
        ((settleDirectory path : StateM Host _).run host).2.files :=
      (made_settleDirectory path host).mono fun _ same => same ▸ .refl
    rw [ensureDirectory, if_neg named, Host.run_bind]
    split
    · split
      · exact here host
      · next parent above =>
        have higher := (ih parent above ((settleDirectory path : StateM Host _).run host).2).mono
          fun _ chain => Relation.ReflTransGen.head (show Path.IsParent path parent from above) chain
        rw [Host.run_bind]
        split
        · exact ((here host).trans higher).trans (here _)
        · exact (here host).trans higher
    · exact here host

namespace Settings

/-- The directories above a file. -/
def directoriesFor (name : String) : Path → Prop :=
  Relation.TransGen Path.IsParent (Path.ofString name)

/-- The step of saving that comes before anything is written. -/
def makeWay (path : Path) : StateM Host (Except FileError Unit) :=
  match path.parent? with
  | some parent => ensureDirectory parent
  | none => pure (.ok ())

theorem made_makeWay (name : String) (host : Host) :
    Made (directoriesFor name) host.files ((makeWay (Path.ofString name)).run host).2.files := by
  unfold makeWay
  split
  · next parent above =>
    exact (made_ensureDirectory parent host).mono fun _ chain => Relation.TransGen.head' above chain
  · exact Made.refl _ _

/-- What saving can answer, and the host it leaves. -/
inductive Saved (settings : Settings) (name : String) (host : Host) :
    Except Failure Unit → Host → Prop
  /-- Directories above the file were made at most. -/
  | failed {failure : Failure} {after : Host}
      (made : Made (directoriesFor name) host.files after.files) :
      Saved settings name host (.error failure) after
  /-- Directories above the file were made, and then the document was written to the place that the
  path names. -/
  | written {between : Host} {text : String} {place : Place}
      (made : Made (directoriesFor name) host.files between.files)
      (document : settings.document = .ok text)
      (resolved : between.files.resolve (Path.ofString name) = .ok place)
      (free : between.files.get? place ≠ some .directory)
      (plain : (Path.ofString name).trailing = false) :
      Saved settings name host (.ok ())
        { between with files := between.files.put place (.file text.toUTF8) }

theorem save_eq_makeWay_bind (settings : Settings) (name : String) :
    (settings.save name : StateM Host _) = makeWay (Path.ofString name) >>= fun above =>
      match above with
      | .error error => pure (.error (.input error))
      | .ok _ =>
        match settings.document with
        | .error error => pure (.error (.settings error))
        | .ok text => do
          return (← FileAccess.writeText (Path.ofString name) text).mapError .input := by
  unfold save makeWay
  dsimp only
  cases (Path.ofString name).parent? <;> rfl

/-- Saving makes way for the file, and then writes the document if there is one. -/
theorem run_save (settings : Settings) (name : String) (host : Host) :
    (settings.save name : StateM Host _).run host
      = match (makeWay (Path.ofString name)).run host with
        | (.error error, between) => (.error (.input error), between)
        | (.ok _, between) =>
          match settings.document with
          | .error error => (.error (.settings error), between)
          | .ok text =>
            match between.files.write (Path.ofString name) text.toUTF8 with
            | .error error => (.error (.input error), between)
            | .ok files => (.ok (), { between with files }) := by
  rw [save_eq_makeWay_bind, Host.run_bind]
  generalize (makeWay (Path.ofString name)).run host = outcome
  obtain ⟨above, between⟩ := outcome
  cases above with
  | error error => rfl
  | ok _ =>
    cases settings.document with
    | error error => rfl
    | ok text =>
      have action : (FileAccess.writeText (Path.ofString name) text : StateM Host _).run between
          = (Host.change (·.write (Path.ofString name) text.toUTF8)).run between := rfl
      dsimp only
      rw [Host.run_bind, action, Host.run_change]
      cases between.files.write (Path.ofString name) text.toUTF8 <;> rfl

/-- **Saving makes directories above the file, and writes the file as its last step.** -/
theorem saved (settings : Settings) (name : String) (host : Host) :
    Saved settings name host ((settings.save name : StateM Host _).run host).1
      ((settings.save name : StateM Host _).run host).2 := by
  have made := made_makeWay name host
  rw [run_save]
  generalize (makeWay (Path.ofString name)).run host = outcome at made ⊢
  obtain ⟨above, between⟩ := outcome
  cases above with
  | error error => exact .failed made
  | ok _ =>
    cases document : settings.document with
    | error error => exact .failed made
    | ok text =>
      dsimp only
      cases written : between.files.write (Path.ofString name) text.toUTF8 with
      | error error => exact .failed made
      | ok files =>
        obtain ⟨place, writable, rfl⟩ := FileSystem.exists_of_write written
        exact .written made document writable.resolve writable.free writable.plain

end Settings

end ExprLexer
