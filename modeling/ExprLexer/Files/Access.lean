import ExprLexer.Files.Path

/-!
The file operations that commands use, whatever carries them out.

* `FileError`: why an operation fails, with its wording;
* `FileAccess`: the operations;
* `ensureDirectory`: makes a directory with those above it;
* `readText`: the text of a file.
-/

namespace ExprLexer

/-- Why a file operation fails. -/
inductive FileError
  | noSuchFile
  | fileExists
  | notADirectory
  | isADirectory
  | nameTooLong
  | nulInPath
  /-- The bytes are no text. -/
  | notUtf8
  /-- Any other reason, in words. -/
  | other (reason : String)
deriving DecidableEq

/-- The wording of the error. -/
def FileError.message : FileError → String
  | noSuchFile => "No such file or directory (os error 2)"
  | fileExists => "File exists (os error 17)"
  | notADirectory => "Not a directory (os error 20)"
  | isADirectory => "Is a directory (os error 21)"
  | nameTooLong => "File name too long (os error 36)"
  | nulInPath => "file name contained an unexpected NUL byte"
  | notUtf8 => "stream did not contain valid UTF-8"
  | other reason => reason

/-- The file operations, carried out in `m`. -/
class FileAccess (m : Type → Type) where
  pathExists : Path → m Bool
  isDirectory : Path → m Bool
  readBytes : Path → m (Except FileError ByteArray)
  /-- Makes a directory where nothing stands. -/
  makeDirectory : Path → m (Except FileError Unit)
  /-- Writes a file; what it held before is lost. -/
  writeText : Path → String → m (Except FileError Unit)
  readInput : m ByteArray

/-- The text that some bytes encode. -/
def decode (bytes : ByteArray) : Except FileError String :=
  match String.fromUTF8? bytes with
  | some text => .ok text
  | none => .error .notUtf8

section Composed

variable {m : Type → Type} [Monad m] [FileAccess m]

/-- The text of a file. -/
def readText (path : Path) : m (Except FileError String) := do
  let content ← FileAccess.readBytes path
  return content.bind decode

/-- Makes a directory unless one is there. -/
def settleDirectory (path : Path) : m (Except FileError Unit) := do
  match ← FileAccess.makeDirectory path with
  | .ok _ => return .ok ()
  | .error error => return if ← FileAccess.isDirectory path then .ok () else .error error

/-- Makes a directory, and those above it, unless they are there.  Those made before a failure
stay. -/
def ensureDirectory (path : Path) : m (Except FileError Unit) := do
  if path.isEmpty then return .ok ()
  else
    match ← settleDirectory path with
    | .error .noSuchFile =>
      match _above : path.parent? with
      | none => return .error .noSuchFile
      | some parent =>
        match ← ensureDirectory parent with
        | .ok _ => settleDirectory path
        | .error error => return .error error
    | outcome => return outcome
termination_by path.weight
decreasing_by exact Path.weight_parent? _above

end Composed

end ExprLexer
