import ExprLexer.CommandLine.Program

/-!
The process: its arguments and its environment, its files and its streams.

* `attempt`, `fileError`: an operation, and why it failed;
* `home`: the home directory, from the environment or from the list of users;
* `environment`: the variables that matter.

Log lines, colours and the time they are printed at are left out: the flags for them are read
(`Invocation`), and nothing here looks at them.
-/

namespace ExprLexer.Process

/-- The error of the operating system with some number. -/
def errorOfNumber (number : Nat) (detail : String) : FileError :=
  match number with
  | 2 => .noSuchFile
  | 17 => .fileExists
  | 20 => .notADirectory
  | 21 => .isADirectory
  | 36 => .nameTooLong
  | _ => .other (detail ++ " (os error " ++ toString number ++ ")")

/-- The number behind a code, which may be negated. -/
def numberOfCode (code : UInt32) : Nat := min code.toNat (UInt32.size - code.toNat)

/-- Why an operation failed. -/
def fileError : IO.Error → FileError
  | .noFileOrDirectory _ code detail | .alreadyExists _ code detail
  | .invalidArgument _ code detail | .permissionDenied _ code detail
  | .resourceExhausted _ code detail | .inappropriateType _ code detail
  | .noSuchThing _ code detail | .otherError code detail | .resourceBusy code detail
  | .unsupportedOperation code detail | .illegalOperation code detail =>
    errorOfNumber (numberOfCode code) detail
  | error => .other (toString error)

/-- Carries out an operation. -/
def attempt {α : Type} (operation : IO α) : IO (Except FileError α) := do
  return (← operation.toBaseIO).mapError fileError

/-- All that is left of a stream. -/
partial def readAll (stream : IO.FS.Stream) (content : ByteArray) : IO ByteArray := do
  let piece ← stream.read 65536
  if piece.isEmpty then return content else readAll stream (content ++ piece)

instance : FileAccess IO where
  pathExists path := (System.mkFilePath [path.text]).pathExists
  isDirectory path := (System.mkFilePath [path.text]).isDir
  readBytes path := attempt (IO.FS.readBinFile path.text)
  makeDirectory path := attempt (IO.FS.createDir path.text)
  writeText path text := attempt (IO.FS.writeFile path.text text)
  readInput := do readAll (← IO.getStdin) .empty

instance : CommandLine.Console IO where
  print text := do (← IO.getStdout).putStr text
  printError text := do (← IO.getStderr).putStr text

/-- The number of the user who runs a process, from what the system tells about that process. -/
def userOfStatus? (status : String) : Option Nat :=
  (status.splitOn "\n").findSome? fun row =>
    match row.splitOn "\t" with
    | "Uid:" :: user :: _ => user.toNat?
    | _ => none

/-- The home directory of a user, in a list of users by name, mark, number, group, words, home
directory and shell. -/
def homeOfUser? (users : String) (user : Nat) : Option String :=
  let rows := (users.splitOn "\n").map (·.splitOn ":")
  let row := rows.find? fun row => (row[2]?.bind String.toNat?) == some user
  (row.bind (·[5]?)).filter (!·.isEmpty)

/-- The home directory: the one in the environment, or else that of the user in the list of users.
Users that the system knows from elsewhere have none. -/
def home : IO (Option String) := do
  match (← IO.getEnv "HOME").filter (!·.isEmpty) with
  | some directory => return some directory
  | none =>
    let status ← attempt (IO.FS.readFile "/proc/self/status")
    let users ← attempt (IO.FS.readFile "/etc/passwd")
    match status, users with
    | .ok status, .ok users => return (userOfStatus? status).bind (homeOfUser? users)
    | _, _ => return none

/-- The variables of the environment that matter. -/
def environment : IO CommandLine.Environment :=
  return {
    config := ← IO.getEnv "CALXT_CONFIG"
    verbose := ← IO.getEnv "CALXT_VERBOSE"
    noColor := ← IO.getEnv "CALXT_NO_COLOR"
    homes := { home := ← home, settings := ← IO.getEnv "XDG_CONFIG_HOME" } }

end ExprLexer.Process

/-- Runs the program on the arguments of the process. -/
def main (arguments : List String) : IO UInt32 := do
  let exit ← ExprLexer.CommandLine.program (← ExprLexer.Process.environment) arguments
  return UInt32.ofNat exit.number
