import ExprLexer.Files.Access

/-!
A file system as a value, and the file operations on it.

Places are named from the top.  A path is walked name by name; each step needs a directory to
stand in.

* `FileSystem.get?`: what stands at a place;
* `FileSystem.walk`, `FileSystem.resolve`: the place that names lead to, and that a path names;
* `FileSystem.pathExists`, `FileSystem.isDirectory`, `FileSystem.read`, `FileSystem.makeDirectory`,
  `FileSystem.write`: the operations;
* `Host`: a file system with a standard input, and the operations as steps on it.

Files and directories are all that stands anywhere: links, devices, permissions and a full disk are left
out.
-/

namespace ExprLexer

/-- A place, by the names on the way from the top. -/
abbrev Place := List String

/-- What stands at a place. -/
inductive Entry
  | file (content : ByteArray)
  | directory

/-- A file system. -/
structure FileSystem where
  /-- What stands where, the latest first. -/
  entries : List (Place × Entry)
  /-- Where paths without a leading slash begin. -/
  workingDirectory : Place

namespace FileSystem

/-- What stands at a place.  The top is a directory. -/
def get? (files : FileSystem) (place : Place) : Option Entry :=
  if place.isEmpty then some .directory else files.entries.lookup place

/-- Puts something at a place. -/
def put (files : FileSystem) (place : Place) (entry : Entry) : FileSystem :=
  { files with entries := (place, entry) :: files.entries }

/-- Refuses a place where no directory stands. -/
def needDirectory (files : FileSystem) (place : Place) : Except FileError Unit :=
  match files.get? place with
  | none => .error .noSuchFile
  | some (.file _) => .error .notADirectory
  | some .directory => .ok ()

/-- One step of a walk, from a directory to what a name in it means. -/
def step (files : FileSystem) (place : Place) (name : String) : Except FileError Place :=
  (files.needDirectory place).bind fun _ =>
    if name = "." then .ok place
    else if name = ".." then .ok place.dropLast
    else if 255 < name.utf8ByteSize then .error .nameTooLong
    else .ok (place ++ [name])

/-- The place at the end of a walk; nothing need stand there. -/
def walk (files : FileSystem) : Place → List String → Except FileError Place
  | place, [] => .ok place
  | place, name :: names => (files.step place name).bind fun next => files.walk next names

/-- Where the walk along a path begins.  A path has at least one byte and at most 4095, and none of
them is zero. -/
def origin (files : FileSystem) (path : Path) : Except FileError Place :=
  if path.chars.contains '\x00' then .error .nulInPath
  else if path.isEmpty then .error .noSuchFile
  else if 4096 ≤ path.text.utf8ByteSize then .error .nameTooLong
  else .ok (if path.absolute then [] else files.workingDirectory)

/-- The place that a path names. -/
def resolve (files : FileSystem) (path : Path) : Except FileError Place :=
  (files.origin path).bind fun place => files.walk place path.names

/-- Whether something stands at a path. -/
def pathExists (files : FileSystem) (path : Path) : Bool :=
  match files.resolve path with
  | .error _ => false
  | .ok place =>
    match files.get? place with
    | none => false
    | some (.file _) => !path.trailing
    | some .directory => true

/-- Whether a directory stands at a path. -/
def isDirectory (files : FileSystem) (path : Path) : Bool :=
  match files.resolve path with
  | .error _ => false
  | .ok place =>
    match files.get? place with
    | some .directory => true
    | _ => false

/-- The content of a file. -/
def read (files : FileSystem) (path : Path) : Except FileError ByteArray :=
  (files.resolve path).bind fun place =>
    match files.get? place with
    | none => .error .noSuchFile
    | some .directory => .error .isADirectory
    | some (.file content) => if path.trailing then .error .notADirectory else .ok content

/-- Makes a directory where nothing stands. -/
def makeDirectory (files : FileSystem) (path : Path) : Except FileError FileSystem :=
  (files.resolve path).bind fun place =>
    match files.get? place with
    | none => .ok (files.put place .directory)
    | some _ => .error .fileExists

/-- Writes a file.  Behind a slash at the end a directory is meant, whatever the last name. -/
def write (files : FileSystem) (path : Path) (content : ByteArray) :
    Except FileError FileSystem := do
  let directory ← files.walk (← files.origin path) path.names.dropLast
  files.needDirectory directory
  match path.names.getLast?, path.trailing with
  | some name, false =>
    let place ← files.step directory name
    match files.get? place with
    | some .directory => .error .isADirectory
    | _ => .ok (files.put place (.file content))
  | _, _ => .error .isADirectory

end FileSystem

/-- A file system with a standard input. -/
structure Host where
  files : FileSystem
  input : ByteArray

/-- Carries out a change of the file system, which stays as it is if that fails. -/
def Host.change (change : FileSystem → Except FileError FileSystem) :
    StateM Host (Except FileError Unit) := fun host =>
  match change host.files with
  | .ok files => (.ok (), { host with files })
  | .error error => (.error error, host)

instance : FileAccess (StateM Host) where
  pathExists path host := (host.files.pathExists path, host)
  isDirectory path host := (host.files.isDirectory path, host)
  readBytes path host := (host.files.read path, host)
  makeDirectory path := Host.change (·.makeDirectory path)
  writeText path text := Host.change (·.write path text.toUTF8)
  readInput host := (host.input, host)

end ExprLexer
