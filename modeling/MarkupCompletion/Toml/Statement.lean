import MarkupCompletion.Toml.Scalar
import MarkupCompletion.Toml.Quoted
import MarkupCompletion.Toml.Assembly
import MarkupCompletion.Text.Display

/-
  The statements of a TOML document: headers, and keys with their values.
-/

namespace MarkupCompletion

namespace Toml

/-- Whether a character may stand in a key without quotes. -/
def isKeyChar (c : Char) : Bool := c.isAlphanum || c == '_' || c == '-'

def readKey (t : Text) : Option (Text × Text) :=
  match t with
  | [] => none
  | c :: r =>
    if c = '"' then readBasic r
    else if c = '\'' then readLiteral r
    else if isKeyChar c then some (t.takeWhile isKeyChar, t.dropWhile isKeyChar)
    else none

/-- Reads at most `count` keys joined by full stops. -/
def readKeys : Nat → Text → Option (List Text × Text)
  | 0, _ => none
  | count + 1, t => do
    let (key, t) ← readKey t
    match skipSpaces t with
    | '.' :: r => (readKeys count (skipSpaces r)).map fun p => (key :: p.1, p.2)
    | r => some ([key], r)

/-- How many keys a path may have, and how many brackets and braces may be open
at once. -/
def maxDepth : Nat := 80

def readPath (t : Text) : Option (List Text × Text) := readKeys maxDepth t

mutual

/-- Reads a value in which at most `depth` brackets and braces are open at once,
for a text of at most `fuel` characters. -/
def readValue : Nat → Nat → Text → Option (Value × Text)
  | 0, _, _ => none
  | fuel + 1, depth, t =>
    match t, depth with
    | [], _ => none
    | '[' :: _, 0 => none
    | '[' :: r, depth + 1 => (readItems fuel depth r).map fun p => (.array false p.1, p.2)
    | '\x7b' :: _, 0 => none
    | '\x7b' :: r, depth + 1 => do
      let (pairs, r) ← readPairs fuel depth r
      let entries ← assembleBraces pairs
      some (.table .braces entries, r)
    | c :: _, _ =>
      if c = '"' ∨ c = '\'' then (readString t).map fun p => (.string p.1, p.2) else readAtom t

/-- Reads the items of an array, after its bracket or a comma. -/
def readItems : Nat → Nat → Text → Option (List Value × Text)
  | 0, _, _ => none
  | fuel + 1, depth, t => do
    match ← skipGap false t with
    | ']' :: r => some ([], r)
    | t =>
      let (v, t) ← readValue fuel depth t
      match ← skipGap false t with
      | ']' :: r => some ([v], r)
      | ',' :: r => (readItems fuel depth r).map fun p => (v :: p.1, p.2)
      | _ => none

/-- Reads the keys and values of a table in braces, after its brace or a comma.
Its parts may stand on lines of their own, but for the keys of a path. -/
def readPairs : Nat → Nat → Text → Option (List (List Text × Value) × Text)
  | 0, _, _ => none
  | fuel + 1, depth, t => do
    match ← skipGap false t with
    | '\x7d' :: r => some ([], r)
    | t =>
      let (path, t) ← readPath t
      let t ← after '=' (← skipGap false t)
      let (v, t) ← readValue fuel depth (← skipGap false t)
      match ← skipGap false t with
      | '\x7d' :: r => some ([(path, v)], r)
      | ',' :: r => (readPairs fuel depth r).map fun p => ((path, v) :: p.1, p.2)
      | _ => none

end

/-- Reads one statement, up to the end of its line. -/
def readStatement (t : Text) : Option (Statement × Text) :=
  match t with
  | '[' :: '[' :: r => do
    let (path, r) ← readPath (skipSpaces r)
    let r ← after ']' (skipSpaces r)
    let r ← after ']' r
    some (.arrayHeader path, r)
  | '[' :: r => do
    let (path, r) ← readPath (skipSpaces r)
    let r ← after ']' (skipSpaces r)
    some (.header path, r)
  | _ => do
    let (path, r) ← readPath t
    let r ← after '=' (skipSpaces r)
    let r := skipSpaces r
    let (v, r) ← readValue (r.length + 1) maxDepth r
    some (.pair path v, r)

/-- Reads statements to the end of a text of at most `fuel` characters. -/
def readStatements : Nat → Text → Option (List Statement)
  | 0, _ => none
  | fuel + 1, t =>
    match t with
    | [] => some []
    | _ => do
      let (s, r) ← readStatement t
      let r ← skipLine r
      (readStatements fuel r).map (s :: ·)

/-- Reads a document. A mark of byte order at its start is passed over. -/
def read (t : Text) : Option Entries := do
  let t := if t.head? = some '\ufeff' then t.tail else t
  let t ← skipGap false t
  assemble (← readStatements (t.length + 1) t)

/-- What a document stands for. The message about a document that stands for
nothing quotes it. -/
def parse {α : Type} (ofEntries : Entries → Option α) (t : Text) : Except Text α :=
  match (read t).bind ofEntries with
  | some a => .ok a
  | none => .error ("TOML parse error in " ++ t.display)

end Toml

end MarkupCompletion
