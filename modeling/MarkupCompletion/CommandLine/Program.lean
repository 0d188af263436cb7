import MarkupCompletion.CommandLine.Report
import MarkupCompletion.Schema.Catalog
import MarkupCompletion.Settings.Store
import MarkupCompletion.Session

/-
  The program: completion at a position of a document, from the command line.

  What a run can see of the system is an `Environment`, and what it does is an
  `Exit`; between the two a run is a function.
-/

namespace MarkupCompletion

namespace Program

def name : Text := "tagsense"

def version : Text := "0.1.0"

/-- The settings file used where none is named, inside the directory for such files. -/
def settingsPath (directory : Text) : Text := pathJoin directory (name ++ "/config.toml")

/-- What a run can see of the system. -/
structure Environment where
  files : Files
  /-- what can be read from standard input -/
  input : Content
  /-- the settings file used where none is named -/
  settingsPath : Text

/-- What a run does: its exit code and what it writes. -/
structure Exit where
  code : Nat := 0
  output : Text := []
  errors : Text := []
  deriving DecidableEq, Repr

def line (t : Text) : Text := t ++ ['\n']

/-- A text for standard input and output, or a failure. -/
def textOf (content : Content) : Except Failure Text :=
  match content with
  | .text t => .ok t
  | .binary => .error (.file .notUtf8)

end Program

open Program

/-- The settings with what the arguments say in place of them. -/
def Arguments.override (a : Arguments) (s : Settings) : Settings :=
  { s with
    schemas := { s.schemas with directory := a.schemaDirectory <|> s.schemas.directory }
    logging := { s.logging with
      level :=
        if a.verbose = 0 then if a.quiet then .error else s.logging.level
        else if a.verbose = 1 then .debug
        else .trace } }

namespace Program

/-- The settings of a run, and the warnings that come with them. A settings file
that is named has to be usable; the default one need not. -/
def readSettings (env : Environment) (a : Arguments) : Except Failure (Settings × Text) :=
  match a.settingsFile with
  | some path => (Settings.fromFile env.files path).map fun s => (a.override s, [])
  | none =>
    match Settings.fromFileIfAny env.files env.settingsPath with
    | .ok s => .ok (a.override s, [])
    | .error e =>
      .ok (a.override {},
        line ("Warning: " ++ e.message) ++ line "Using default configuration instead.")

def settingsFile (env : Environment) (a : Arguments) : Text :=
  a.settingsFile.getD env.settingsPath

/-- What is found when the settings file is checked. -/
def validation (env : Environment) (a : Arguments) : Text :=
  let path := settingsFile env a
  line ("Validating configuration file: " ++ path) ++
  if !env.files.holds path then line "Configuration file does not exist, defaults apply"
  else match Settings.fromFile env.files path with
    | .ok _ => line "Configuration is valid"
    | .error e => line ("Configuration is invalid: " ++ e.message)

def listing (env : Environment) (a : Arguments) (s : Settings) : Text :=
  line ("# " ++ settingsFile env a) ++ line s.written

def runTask (env : Environment) (a : Arguments) (s : Settings) (task : ConfigTask) : Text :=
  (if task.validates then validation env a else []) ++
  if task.shows then listing env a s else []

def readDocument (env : Environment) (a : Arguments) : Except Failure Text :=
  match a.file with
  | none => .error (.generic "no input file given (use - for standard input)")
  | some path =>
    if path = "-" then textOf env.input
    else match env.files.readText path with
      | .ok t => .ok t
      | .error fault => .error (.file fault)

/-- The cursor in a document: at its end unless the arguments place it before. -/
def cursorOffset (a : Arguments) (text : Text) : Nat :=
  match a.offset with
  | some n => min n (Text.size text)
  | none => Text.size text

def format (a : Arguments) : Format := a.format.getD .plain

/-- The candidates at the cursor of a document, as they are written. -/
def completion (a : Arguments) (s : Settings) (r : Registry) (l : Library) (text : Text) : Text :=
  let session := ((Session.new r l s).edit text (cursorOffset a text)).1
  let candidates := (session.complete .never).1
  report (format a) session.cursor (candidates.getD [])

/-- What a run writes once its settings are known. -/
def runWith (env : Environment) (a : Arguments) (s : Settings) : Except Failure Text :=
  match a.task with
  | some task => .ok (runTask env a s task)
  | none => do
    let (r, l) ← Registry.ofSettings s.schemas { files := env.files }
    if a.doctypes then .ok (line (report (format a) .doctype r.doctypes))
    else
      let text ← readDocument env a
      .ok (line (completion a s r l text))

def failed (errors : Text) (e : Failure) : Exit :=
  { code := 1, errors := errors ++ line ("Error: " ++ e.message) }

def usage : Text := "Usage: " ++ name ++ " [OPTIONS] [FILE] [COMMAND]"

/-- What is done in place of a run when the arguments are not taken. -/
def refused : ArgumentError → Exit
  | .help => { output := line usage }
  | .version => { output := line (name ++ " " ++ version) }
  | _ => { code := 2, errors := line usage }

/-- A run of the program, for its arguments without its own name. -/
def run (env : Environment) (argv : List Text) : Exit :=
  match Arguments.parse argv with
  | .error e => refused e
  | .ok a =>
    match readSettings env a with
    | .error e => failed [] e
    | .ok (s, warnings) =>
      match runWith env a s with
      | .ok output => { output, errors := warnings }
      | .error e => failed warnings e

end Program

end MarkupCompletion
