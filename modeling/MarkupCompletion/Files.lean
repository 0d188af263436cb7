import MarkupCompletion.Failure
import MarkupCompletion.Text.Size

/-
  The files that a run can see.

  `Files` is a tree of directories and files given by location: the names from
  the working directory down. A path is followed name by name, and every name
  but the last has to be a directory, so the two ways in which a path can miss,
  something absent and something that is no directory, stay apart.
-/

namespace MarkupCompletion

/-- What a file holds: a text, or bytes that are no text. -/
inductive Content where
  | text (t : Text)
  | binary
  deriving DecidableEq, Repr

/-- What stands at a location. -/
inductive Entry where
  | directory
  | file (content : Content)
  deriving DecidableEq, Repr

/-- Names from the working directory down. The name `/` stands for the root of
the system, and `..` at the start for the directory above. -/
abbrev Location := List Text

structure Files where
  /-- the working directory, written in full -/
  here : Text := []
  entries : List (Location × Entry) := []
  deriving DecidableEq, Repr

def pathNames (path : Text) : List Text :=
  (path.splitOn '/').filter fun name => !name.isEmpty

def pathJoin (directory name : Text) : Text :=
  if directory.getLast? = some '/' then directory ++ name else directory ++ "/" ++ name

/-- The names of a path that count: a full stop counts only where a relative path
starts with it. -/
def pathSteps (path : Text) : List Text :=
  match pathNames path with
  | [] => []
  | name :: names =>
    let names := names.filter fun n => n != ['.']
    if path.head? = some '/' && name == ['.'] then names else name :: names

/-- The path without its last name, for a path that has one. -/
def pathParent (path : Text) : Option Text :=
  match pathSteps path with
  | [] => none
  | names =>
    let root : Text := if path.head? = some '/' then ['/'] else []
    some (root ++ Text.joinWith ['/'] names.dropLast)

/-- Whether a file name has exactly this extension. A name that only starts with
a full stop has none. -/
def hasExtension (extension name : Text) : Bool :=
  let ending := '.' :: extension
  ending.isSuffixOf name && name.length > ending.length

namespace Files

/-- Whether a location is the working directory or lies straight above it. -/
def isUpward (place : Location) : Bool := place.all fun name => name == ['.', '.']

/-- What stands at a location. The working directory, those above it and the root
are directories. -/
def entry? (fs : Files) (place : Location) : Option Entry :=
  if isUpward place || place == [['/']] then some .directory else fs.entries.lookup place

/-- The location that holds a location. The root holds itself. -/
def above (place : Location) : Location :=
  if isUpward place then place ++ [['.', '.']]
  else if place = [['/']] then place
  else place.dropLast

/-- Where following a path starts, and the names to follow. -/
def start (fs : Files) (path : Text) : Location × List Text :=
  let names := pathNames path
  let inside := pathNames fs.here
  if !fs.here.isEmpty && (fs.here.isPrefixOf path && inside.isPrefixOf names) then
    ([], names.drop inside.length)
  else if path.head? = some '/' then ([['/']], names)
  else ([], names)

def follow (fs : Files) : Location → List Text → Except FileFault Location
  | place, [] => .ok place
  | place, name :: names =>
    match fs.entry? place with
    | none => .error .notFound
    | some (.file _) => .error .notDirectory
    | some .directory =>
      if name = ['.'] then follow fs place names
      else if name = ['.', '.'] then follow fs (above place) names
      else if 255 < Text.size name then .error .nameTooLong
      else follow fs (place ++ [name]) names

def checkPath (path : Text) : Except FileFault Unit :=
  if path.contains '\x00' then .error .nulInPath
  else if path.isEmpty then .error .notFound
  else if 4095 < Text.size path then .error .nameTooLong
  else .ok ()

/-- The location that a path names, whether or not something stands there. A path
that ends in a slash names a directory. -/
def locate (fs : Files) (path : Text) : Except FileFault Location := do
  checkPath path
  let (top, names) := fs.start path
  fs.follow top (if path.getLast? = some '/' then names ++ [['.']] else names)

def look (fs : Files) (path : Text) : Except FileFault Entry := do
  match fs.entry? (← fs.locate path) with
  | some e => .ok e
  | none => .error .notFound

def holds (fs : Files) (path : Text) : Bool :=
  match fs.look path with
  | .ok _ => true
  | .error _ => false

def readText (fs : Files) (path : Text) : Except FileFault Text := do
  match ← fs.look path with
  | .directory => .error .isDirectory
  | .file .binary => .error .notUtf8
  | .file (.text t) => .ok t

def list (fs : Files) (path : Text) : Except FileFault (List Text) := do
  let place ← fs.locate path
  match fs.entry? place with
  | none => .error .notFound
  | some (.file _) => .error .notDirectory
  | some .directory =>
    let names := fs.entries.filterMap fun e =>
      if e.1.dropLast = place then e.1.getLast? else none
    .ok (names.mergeSort fun a b => !List.lex b a fun c d => c.toNat < d.toNat)

def set (fs : Files) (place : Location) (e : Entry) : Files :=
  { fs with entries := fs.entries.filter (fun x => x.1 != place) ++ [(place, e)] }

/-- Makes each of the named directories below a location that is not there yet. -/
def makeBelow (fs : Files) : Location → List Text → Except FileFault Files
  | _, [] => .ok fs
  | place, name :: names =>
    if name = ['.'] then makeBelow fs place names
    else if name = ['.', '.'] then makeBelow fs (above place) names
    else if 255 < Text.size name then .error .nameTooLong
    else
      let next := place ++ [name]
      match fs.entry? next with
      | some .directory => makeBelow fs next names
      | some (.file _) => .error (if names.isEmpty then .exists else .notDirectory)
      | none => makeBelow (fs.set next .directory) next names

def makeDirectory (fs : Files) (path : Text) : Except FileFault Files :=
  if path.isEmpty then .ok fs
  else do
    checkPath path
    let (top, names) := fs.start path
    fs.makeBelow top names

def write (fs : Files) (path : Text) (content : Content) : Except FileFault Files := do
  checkPath path
  let (top, names) := fs.start path
  if path.getLast? = some '/' then
    let _ ← fs.follow top (names.dropLast ++ [['.']])
    .error .isDirectory
  else
    let place ← fs.follow top names
    match fs.entry? place with
    | some .directory => .error .isDirectory
    | _ => .ok (fs.set place (.file content))

/-- Puts an entry at a path, with the directories above it. -/
def put (fs : Files) (path : Text) (e : Entry) : Files :=
  let (top, names) := fs.start path
  match fs.makeBelow top names.dropLast with
  | .error _ => fs
  | .ok made =>
    match made.follow top names with
    | .ok place => made.set place e
    | .error _ => fs

/-- The files without what stands at a path and below it. -/
def remove (fs : Files) (path : Text) : Files :=
  match fs.locate path with
  | .ok place => { fs with entries := fs.entries.filter fun x => !place.isPrefixOf x.1 }
  | .error _ => fs

end Files

end MarkupCompletion
