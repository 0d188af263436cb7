import MarkupCompletion.Text.Basic

/-
  What can go wrong at the edges: settings, schema files, the registry and
  plain input and output. Completion itself never fails.

  A failure is its cause; `Failure.message` is the one place where causes are
  put into words.
-/

namespace MarkupCompletion

/-- Why an operation on a file failed. -/
inductive FileFault where
  | notFound
  | isDirectory
  | notDirectory
  | exists
  | nameTooLong
  | nulInPath
  | notUtf8
  | other (message : Text)
  deriving DecidableEq, Repr

def FileFault.message : FileFault → Text
  | .notFound => "No such file or directory (os error 2)"
  | .isDirectory => "Is a directory (os error 21)"
  | .notDirectory => "Not a directory (os error 20)"
  | .exists => "File exists (os error 17)"
  | .nameTooLong => "File name too long (os error 36)"
  | .nulInPath => "file name contained an unexpected NUL byte"
  | .notUtf8 => "stream did not contain valid UTF-8"
  | .other message => message

/-- Why an operation failed. -/
inductive Failure where
  /-- a settings file that is not there -/
  | settingsMissing (path : Text)
  /-- a settings file that is not in the settings format -/
  | settingsFormat (detail : Text)
  /-- a setting with a value that it must not have -/
  | settingsValue (field value : Text)
  /-- a schema file or directory that is not there -/
  | schemaMissing (path : Text)
  /-- a schema file that is not in the schema format -/
  | schemaFormat (path detail : Text)
  /-- two schemas of one name or one public identifier -/
  | schemaDuplicate (key : Text)
  /-- a default schema that is not registered -/
  | schemaUnknownDefault (name : Text)
  | file (fault : FileFault)
  | generic (message : Text)
  deriving DecidableEq, Repr

def Failure.message : Failure → Text
  | .settingsMissing path => "Configuration error: Config file not found: " ++ path
  | .settingsFormat detail => "Configuration error: Invalid config format: " ++ detail
  | .settingsValue field value =>
    "Configuration error: Invalid value '" ++ value ++ "' for field '" ++ field ++ "'"
  | .schemaMissing path => "Schema error: Schema file not found: " ++ path
  | .schemaFormat path detail => "Schema error: Invalid schema file " ++ path ++ ": " ++ detail
  | .schemaDuplicate key => "Schema error: Schema registered twice: " ++ key
  | .schemaUnknownDefault name => "Schema error: Default schema '" ++ name ++ "' is not registered"
  | .file fault => "I/O error: " ++ fault.message
  | .generic message => message

end MarkupCompletion
