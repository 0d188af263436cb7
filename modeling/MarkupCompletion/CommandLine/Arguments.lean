import MarkupCompletion.Text.Digits
import MarkupCompletion.Text.Similarity

/-
  The arguments of the program.

  Arguments are read from left to right. An option takes its value from the same
  argument or from the next one, and the value is looked at when the following
  argument has been recognised; so of two mistakes in a row the second can be
  the one that is reported. After `--` every argument is a file name.
-/

namespace MarkupCompletion

/-- How candidates are written. -/
inductive Format where
  | plain
  | json
  deriving DecidableEq, Repr

/-- What the command `config` is to do. -/
structure ConfigTask where
  shows : Bool := false
  validates : Bool := false
  deriving DecidableEq, Repr

structure Arguments where
  /-- the document; `-` is standard input -/
  file : Option Text := none
  /-- the cursor, in bytes -/
  offset : Option Nat := none
  settingsFile : Option Text := none
  schemaDirectory : Option Text := none
  format : Option Format := none
  doctypes : Bool := false
  verbose : Nat := 0
  quiet : Bool := false
  task : Option ConfigTask := none
  deriving DecidableEq, Repr

/-- Why arguments are not taken. -/
inductive ArgumentError where
  /-- help was asked for -/
  | help
  /-- the version was asked for -/
  | version
  | unknown
  /-- a value that is missing, empty, or none of those there are -/
  | invalidValue
  /-- a value that is no number -/
  | notNumber
  /-- an option that is there twice -/
  | repeated
  /-- a value for an option that takes none -/
  | unwantedValue
  /-- something like a command that is none -/
  | unknownCommand
  deriving DecidableEq, Repr

/-- An option that takes a value, or the file name, which is one. -/
inductive Field where
  | file
  | offset
  | settingsFile
  | schemaDirectory
  | format
  deriving DecidableEq, Repr

/-- An option without a value. -/
inductive Flag where
  | doctypes
  | verbose
  | quiet
  | help
  | version
  deriving DecidableEq, Repr

inductive Switch where
  | field (f : Field)
  | flag (f : Flag)
  deriving DecidableEq, Repr

namespace Switch

def ofLong? (name : Text) : Option Switch :=
  if name = "offset" then some (.field .offset)
  else if name = "config" then some (.field .settingsFile)
  else if name = "schema-dir" then some (.field .schemaDirectory)
  else if name = "format" then some (.field .format)
  else if name = "doctypes" then some (.flag .doctypes)
  else if name = "verbose" then some (.flag .verbose)
  else if name = "quiet" then some (.flag .quiet)
  else if name = "help" then some (.flag .help)
  else if name = "version" then some (.flag .version)
  else none

def ofLetter? (c : Char) : Option Switch :=
  if c = 'o' then some (.field .offset)
  else if c = 'c' then some (.field .settingsFile)
  else if c = 'v' then some (.flag .verbose)
  else if c = 'q' then some (.flag .quiet)
  else if c = 'h' then some (.flag .help)
  else if c = 'V' then some (.flag .version)
  else none

end Switch

def commandNames : List Text := ["config", "help"]

/-- A byte offset: digits, perhaps after a plus sign, below 2^64. -/
def readOffset (t : Text) : Option Nat :=
  let digits := match t with
    | '+' :: r => r
    | t => t
  (natOfDigits? 10 digits).filter fun n => n < Nat.pow 2 64

def Format.ofName? (name : Text) : Option Format :=
  if name = "plain" then some .plain else if name = "json" then some .json else none

namespace Arguments

def has (a : Arguments) : Field → Bool
  | .file => a.file.isSome
  | .offset => a.offset.isSome
  | .settingsFile => a.settingsFile.isSome
  | .schemaDirectory => a.schemaDirectory.isSome
  | .format => a.format.isSome

def readPath (t : Text) : Except ArgumentError Text :=
  if t.isEmpty then .error .invalidValue else .ok t

/-- Gives a field its value, which it must not have yet. -/
def assign (a : Arguments) (f : Field) (t : Text) : Except ArgumentError Arguments :=
  if a.has f then .error .repeated
  else match f with
    | .file => (readPath t).map fun p => { a with file := some p }
    | .settingsFile => (readPath t).map fun p => { a with settingsFile := some p }
    | .schemaDirectory => (readPath t).map fun p => { a with schemaDirectory := some p }
    | .offset =>
      match readOffset t with
      | some n => .ok { a with offset := some n }
      | none => .error .notNumber
    | .format =>
      match Format.ofName? t with
      | some x => .ok { a with format := some x }
      | none => .error .invalidValue

/-- Sets a flag. Only the flag for more output may be set more than once. -/
def raise (a : Arguments) : Flag → Except ArgumentError Arguments
  | .doctypes => if a.doctypes then .error .repeated else .ok { a with doctypes := true }
  | .quiet => if a.quiet then .error .repeated else .ok { a with quiet := true }
  | .verbose => .ok { a with verbose := min (a.verbose + 1) 255 }
  | .help => .error .help
  | .version => .error .version

end Arguments

namespace ConfigTask

def readLetters : Text → ArgumentError
  | 'h' :: _ => .help
  | _ => .unknown

def readLong (t : ConfigTask) (name : Text) (hasValue : Bool) : Except ArgumentError ConfigTask :=
  if name = "show" then
    if hasValue then .error .unwantedValue
    else if t.shows then .error .repeated else .ok { t with shows := true }
  else if name = "validate" then
    if hasValue then .error .unwantedValue
    else if t.validates then .error .repeated else .ok { t with validates := true }
  else if name = "help" then .error (if hasValue then .unwantedValue else .help)
  else .error .unknown

/-- Reads the arguments of the command. After `--` it takes none. -/
def read : ConfigTask → List Text → Except ArgumentError ConfigTask
  | t, [] => .ok t
  | t, a :: as =>
    match a with
    | ['-', '-'] => if as.isEmpty then .ok t else .error .unknown
    | '-' :: '-' :: r => do
      read (← t.readLong (r.takeWhile (· != '=')) (r.contains '=')) as
    | '-' :: c :: r => .error (readLetters (c :: r))
    | _ => .error .unknown

end ConfigTask

/-- The answer to the command `help`, which may name commands. -/
def readHelp : List Text → ArgumentError
  | [] => .help
  | [name] => if commandNames.contains name then .help else .unknownCommand
  | _ => .unknownCommand

/-- Arguments being read. -/
structure Reading where
  arguments : Arguments := {}
  /-- the field that was named last, with its value if that is there -/
  pending : Option (Field × Option Text) := none
  deriving DecidableEq, Repr

namespace Reading

def settle (r : Reading) : Except ArgumentError Reading :=
  match r.pending with
  | none => .ok r
  | some (_, none) => .error .invalidValue
  | some (f, some t) => (r.arguments.assign f t).map fun a => ⟨a, none⟩

/-- Whether the next argument is the value of a field. -/
def awaited? (r : Reading) : Option Field :=
  match r.pending with
  | some (f, none) => some f
  | _ => none

/-- Takes a field whose value stands in the same argument. -/
def takeValue (r : Reading) (f : Field) (t : Text) : Except ArgumentError Reading := do
  let r ← r.settle
  let a ← r.arguments.assign f t
  .ok ⟨a, none⟩

def takeField (r : Reading) (f : Field) : Except ArgumentError Reading := do
  let r ← r.settle
  .ok ⟨r.arguments, some (f, none)⟩

def takeFlag (r : Reading) (f : Flag) : Except ArgumentError Reading := do
  let r ← r.settle
  let a ← r.arguments.raise f
  .ok ⟨a, none⟩

/-- Takes an option by its long name, with the value after an equals sign. -/
def takeLong (r : Reading) (name : Text) (value : Option Text) : Except ArgumentError Reading :=
  match Switch.ofLong? name, value with
  | none, _ => .error .unknown
  | some (.flag _), some _ => .error .unwantedValue
  | some (.flag f), none => r.takeFlag f
  | some (.field f), some t => r.takeValue f t
  | some (.field f), none => r.takeField f

/-- Takes the options of one argument by their letters. What follows the letter of
a field is its value. -/
def takeLetters : Reading → Text → Except ArgumentError Reading
  | r, [] => .ok r
  | r, c :: cs =>
    match Switch.ofLetter? c, cs with
    | none, _ => .error .unknown
    | some (.flag f), cs => do takeLetters (← r.takeFlag f) cs
    | some (.field f), [] => r.takeField f
    | some (.field f), '=' :: t => r.takeValue f t
    | some (.field f), t => r.takeValue f t

def hasFile (r : Reading) : Bool :=
  r.arguments.file.isSome || (r.pending.map (·.1)) == some .file

/-- Why an argument cannot be a file name when there is one already. One that looks
like a command is taken for it, but a command after `--` is none. -/
def surplus (onlyFiles : Bool) (t : Text) : ArgumentError :=
  if onlyFiles && commandNames.contains t then .unknown
  else if commandNames.any fun name => Similarity.areSimilar t name then .unknownCommand
  else .unknown

def takeFile (onlyFiles : Bool) (r : Reading) (t : Text) : Except ArgumentError Reading :=
  if r.hasFile then .error (surplus onlyFiles t)
  else do
    let r ← r.settle
    .ok ⟨r.arguments, some (.file, some t)⟩

/-- Takes an argument that may be an option, a value or the file name. -/
def take (r : Reading) (t : Text) : Except ArgumentError Reading :=
  match t with
  | '-' :: '-' :: name =>
    r.takeLong (name.takeWhile (· != '='))
      (if name.contains '=' then some ((name.dropWhile (· != '=')).drop 1) else none)
  | '-' :: c :: cs => r.takeLetters (c :: cs)
  | _ =>
    match r.awaited? with
    | some f => .ok ⟨r.arguments, some (f, some t)⟩
    | none => r.takeFile false t

def finish (r : Reading) : Except ArgumentError Arguments := r.settle.map (·.arguments)

/-- Reads arguments of which each is a file name. -/
def readFiles (r : Reading) : List Text → Except ArgumentError Arguments
  | [] => r.finish
  | t :: ts => do (← r.takeFile true t).readFiles ts

/-- Reads arguments. A command is one only where no value is awaited; it takes all
that follows. -/
def read (r : Reading) : List Text → Except ArgumentError Arguments
  | [] => r.finish
  | t :: ts =>
    if r.awaited?.isNone && t == "config" then do
      -- mistakes of the command are reported before those still pending
      let task ← ConfigTask.read {} ts
      let a ← r.finish
      .ok { a with task := some task }
    else if r.awaited?.isNone && t == "help" then .error (readHelp ts)
    else if t = "--" then r.readFiles ts
    else do (← r.take t).read ts

end Reading

/-- The arguments that a program was started with, without its own name. -/
def Arguments.parse (argv : List Text) : Except ArgumentError Arguments :=
  Reading.read {} argv

end MarkupCompletion
