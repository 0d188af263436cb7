import MarkupCompletion.Settings.Decode
import MarkupCompletion.Settings.Written
import MarkupCompletion.Toml.Statement
import MarkupCompletion.Files

/-
  Settings files.
-/

namespace MarkupCompletion

namespace Settings

def parse (t : Text) : Except Failure Settings :=
  (Toml.parse Settings.ofToml? t).mapError .settingsFormat

/-- Reads a settings file. It has to be there, and its settings to be usable. -/
def fromFile (fs : Files) (path : Text) : Except Failure Settings :=
  if !fs.holds path then .error (.settingsMissing path)
  else match fs.readText path with
    | .error fault => .error (.file fault)
    | .ok t => do
      let s ← parse t
      s.check
      .ok s

def fromFileIfAny (fs : Files) (path : Text) : Except Failure Settings :=
  if fs.holds path then fromFile fs path else .ok {}

/-- Writes a settings file, and makes the directories it is to stand in. -/
def save (s : Settings) (fs : Files) (path : Text) : Except Failure Files :=
  let made := match pathParent path with
    | some parent => fs.makeDirectory parent
    | none => .ok fs
  match made.bind fun fs => fs.write path (.text s.written) with
  | .ok fs => .ok fs
  | .error fault => .error (.file fault)

end Settings

end MarkupCompletion
