import MarkupCompletion.Toml.Value

/-
  The table that the statements of a TOML document describe.

  Every statement adds to the tables made by those before it. A table is defined
  once: by one header, by braces, or by the dotted keys of one table; a header
  may still define a table that until then only stood on the way to others.
-/

namespace MarkupCompletion

namespace Toml

/-- A statement of a document. -/
inductive Statement where
  /-- starts a table -/
  | header (path : List Text)
  /-- starts a further table of an array -/
  | arrayHeader (path : List Text)
  /-- sets a value in the table last started -/
  | pair (path : List Text) (value : Value)

namespace Entries

def get? (es : Entries) (key : Text) : Option Value := es.lookup key

/-- The entries with the value of a key put in the place of its former one, or
at the end. -/
def put : Entries → Text → Value → Entries
  | [], key, v => [(key, v)]
  | (k, w) :: es, key, v => if k = key then (k, v) :: es else (k, w) :: put es key v

end Entries

/-- Changes the table that a path leads to, from the entries of a table on. Each
step tells whether it belongs to a dotted key. Tables on the way are made as
needed; of an array made by headers the last table is taken. A dotted key does
not enter tables that a header defined, and nothing enters braces. -/
def change (f : Origin → Entries → Option Entries) :
    List (Bool × Text) → Origin → Entries → Option Entries
  | [], origin, es => f origin es
  | (isDotted, key) :: path, _, es =>
    match es.get? key with
    | none =>
      -- what is made on the way remembers how, for the lines to come
      let origin := if isDotted then Origin.dotted else .onTheWay
      (change f path origin []).map fun sub => es.put key (.table origin sub)
    | some (.table origin sub) =>
      if origin = .braces ∨ (isDotted ∧ origin = .header) then none
      else (change f path origin sub).map fun sub => es.put key (.table origin sub)
    | some (.array true items) =>
      match items.getLast? with
      | some (.table origin sub) =>
        (change f path origin sub).map fun sub =>
          es.put key (.array true (items.dropLast ++ [.table origin sub]))
      | _ => none
    | some _ => none

/-- Sets a new key. A dotted key sets it in a table made by dotted keys and any
other in a table made otherwise. -/
def setNew (isDotted : Bool) (key : Text) (v : Value) (origin : Origin) (es : Entries) :
    Option Entries :=
  if (origin == .dotted) != isDotted then none
  else match es.get? key with
    | some _ => none
    | none => some (es.put key v)

/-- Sets the value at a key path inside the table that `top` leads to. -/
def setPath (top : List Text) (path : List Text) (v : Value) (origin : Origin) (es : Entries) :
    Option Entries :=
  match path.getLast? with
  | none => none
  | some key =>
    let on := path.dropLast
    change (setNew (!on.isEmpty) key v) (top.map (false, ·) ++ on.map (true, ·)) origin es

def startTable (key : Text) (_ : Origin) (es : Entries) : Option Entries :=
  match es.get? key with
  | none => some (es.put key (.table .header []))
  | some (.table .onTheWay sub) => some (es.put key (.table .header sub))
  | some _ => none

/-- Starts a further table in the array of a key. -/
def startItem (key : Text) (_ : Origin) (es : Entries) : Option Entries :=
  match es.get? key with
  | none => some (es.put key (.array true [.table .header []]))
  | some (.array true items) => some (es.put key (.array true (items ++ [.table .header []])))
  | some _ => none

/-- The table last started, and all entries of the document. -/
structure Assembly where
  current : List Text := []
  entries : Entries := []

def Assembly.add (a : Assembly) : Statement → Option Assembly
  | .header path => do
    let key ← path.getLast?
    let es ← change (startTable key) (path.dropLast.map (false, ·)) .header a.entries
    some ⟨path, es⟩
  | .arrayHeader path => do
    let key ← path.getLast?
    let es ← change (startItem key) (path.dropLast.map (false, ·)) .header a.entries
    some ⟨path, es⟩
  | .pair path v => (setPath a.current path v .header a.entries).map fun es => ⟨a.current, es⟩

/-- The entries that the statements of a document describe. -/
def assemble (statements : List Statement) : Option Entries :=
  (statements.foldlM Assembly.add {}).map (·.entries)

def assembleBraces (pairs : List (List Text × Value)) : Option Entries :=
  pairs.foldlM (fun es p => setPath [] p.1 p.2 .braces es) []

end Toml

end MarkupCompletion
