import MarkupCompletion.Schema.Decode
import MarkupCompletion.Files

/-
  Schemas and the library that answers for them.

  A schema is a name for a source of answers. Most sources are definitions; some
  are files, which are read when they are first needed, and others are known only
  by what they reply. What has been read from a file is kept in a slot of the
  library, so a file is read with success at most once, whatever happens to it
  later; a failure is not kept.

  How the text of a schema file becomes a definition, or a message about what is
  wrong with it, is for the library to say (`Library.parse`), and nothing here
  depends on it.
-/

namespace MarkupCompletion

/-- What a provider replies to a query. -/
inductive Reply where
  | atOnce (answer : Except Failure (List Candidate))
  /-- an answer that has to be waited for -/
  | later (answer : Except Failure (List Candidate))
  | never

namespace Reply

/-- The answer that comes in the end, if any does. -/
def answer? : Reply → Option (Except Failure (List Candidate))
  | atOnce answer | later answer => some answer
  | never => none

def isAtOnce : Reply → Bool
  | atOnce _ => true
  | later _ | never => false

end Reply

/-- Where the answers of a schema come from. -/
inductive Source where
  | table (definition : Definition)
  /-- a file, whose definition has a slot in the library -/
  | file (slot : Nat) (path : Text)
  | provider (reply : Query → Reply)

namespace Source

def broken (failure : Failure) : Source := provider fun _ => .atOnce (.error failure)

def stalled : Source := provider fun _ => .never

end Source

/-- A kind of document by name. -/
structure Schema where
  name : Text
  publicId : Option Text := none
  /-- its doctype declaration -/
  doctype : Option Text := none
  source : Source

def displayIfAny : Option Text → Text
  | none => "None"
  | some t => "Some(" ++ t.display ++ ")"

namespace Schema

/-- The formal public identifier, which an empty one is not. -/
def fpi (s : Schema) : Option Text := s.publicId.filter (fun p => !p.isEmpty)

def ofDefinition (d : Definition) : Schema :=
  { name := d.name, publicId := d.fpi, doctype := d.doctype, source := .table d }

def display (s : Schema) : Text :=
  "Schema \x7b name: " ++ s.name.display ++ ", fpi: " ++ displayIfAny s.fpi ++ ", doctype: " ++
    displayIfAny s.doctype ++ ", .. \x7d"

end Schema

/-- Reads the definition in a schema file. What is said of a text that holds none is what `parse`
says of it. -/
def Files.readDefinition (fs : Files) (path : Text)
    (parse : Text → Except Text Definition := Definition.parse) : Except Failure Definition :=
  match fs.readText path with
  | .error .notFound => .error (.schemaMissing path)
  | .error fault => .error (.file fault)
  | .ok t => (parse t).mapError (.schemaFormat path)

def Files.schemaPaths (fs : Files) (directory : Text) : Except Failure (List Text) :=
  match fs.list directory with
  | .error .notFound => .error (.schemaMissing directory)
  | .error fault => .error (.file fault)
  | .ok names => .ok ((names.filter (hasExtension "toml")).map (pathJoin directory))

/-- The files there are, how they are read, and what has been read of them. -/
structure Library where
  files : Files := {}
  /-- the definition in the text of a schema file, or what is wrong with the text -/
  parse : Text → Except Text Definition := Definition.parse
  /-- how many slots have been given out -/
  slots : Nat := 0
  /-- the definitions that have been read, by slot -/
  loaded : List (Nat × Definition) := []

namespace Library

def get? (l : Library) (slot : Nat) : Option Definition := l.loaded.lookup slot

def addSlot (l : Library) : Nat × Library := (l.slots, { l with slots := l.slots + 1 })

def keep (l : Library) (slot : Nat) (d : Definition) : Library :=
  { l with loaded := (slot, d) :: l.loaded }

/-- Reads the definition in a schema file, as it is now. -/
def readDefinition (l : Library) (path : Text) : Except Failure Definition :=
  l.files.readDefinition path l.parse

/-- The definition in a slot, which is read from its file if it is not there. -/
def fetch (l : Library) (slot : Nat) (path : Text) : Except Failure Definition × Library :=
  match l.get? slot with
  | some d => (.ok d, l)
  | none =>
    match l.readDefinition path with
    | .ok d => (.ok d, l.keep slot d)
    | .error e => (.error e, l)

/-- Whether the answer of a source to a query has to be waited for. -/
def mustWait (l : Library) (source : Source) (q : Query) : Bool :=
  match source with
  | .table _ => false
  | .file slot _ => (l.get? slot).isNone
  | .provider reply => !(reply q).isAtOnce

/-- What a source answers to a query, if it ever does. -/
def answer (l : Library) (source : Source) (q : Query) :
    Option (Except Failure (List Candidate)) × Library :=
  match source with
  | .table d => (some (.ok (d.answer q)), l)
  | .file slot path =>
    let (d, l) := l.fetch slot path
    (some (d.map fun d => d.answer q), l)
  | .provider reply => ((reply q).answer?, l)

/-- Reads what a source needs before anything is asked of it. -/
def preload (l : Library) : Source → Except Failure Unit × Library
  | .file slot path =>
    let (d, l) := l.fetch slot path
    (d.map fun _ => (), l)
  | .table _ | .provider _ => (.ok (), l)

theorem get?_keep (l : Library) (slot : Nat) (d : Definition) :
    (l.keep slot d).get? slot = some d := by
  simp [keep, get?]

theorem fetch_of_get? {l : Library} {slot : Nat} {d : Definition} (path : Text)
    (h : l.get? slot = some d) : l.fetch slot path = (.ok d, l) := by
  simp only [fetch, h]

end Library

end MarkupCompletion
