import ExprLexer.Files.Access
import ExprLexer.LexError

/-!
Why a command fails, and how that is worded.

* `SettingsError.message`, `Failure.message`: the wording.
-/

namespace ExprLexer

/-- What is wrong with settings. -/
inductive SettingsError
  | notFound (name : String)
  /-- The document is not well formed, or a key has a value of the wrong kind. -/
  | malformed (detail : String)
  /-- The settings have no document. -/
  | unwritable (detail : String)
  /-- No token at all is allowed. -/
  | noTokens
deriving DecidableEq

/-- The wording of the error. -/
def SettingsError.message : SettingsError → String
  | notFound name => "Configuration file not found: " ++ name
  | malformed detail => "Failed to parse configuration: " ++ detail
  | unwritable detail => "Failed to serialize configuration: " ++ detail
  | noTokens => "max_tokens must be at least 1"

/-- Why a command fails. -/
inductive Failure
  | settings (error : SettingsError)
  /-- The file to read tokens from cannot be read. -/
  | file (name : String) (error : FileError)
  /-- The standard input, or a file of settings, cannot be read or written. -/
  | input (error : FileError)
  /-- A text does not cut into tokens. -/
  | lexical (error : LexError) (text : String)
deriving DecidableEq

/-- The wording of the failure. -/
def Failure.message : Failure → String
  | settings error => "Configuration error: " ++ error.message
  | file name error => "File operation failed: cannot read " ++ name ++ ": " ++ error.message
  | input error => "IO error: " ++ error.message
  | lexical error text => (error.explain text).render

end ExprLexer
