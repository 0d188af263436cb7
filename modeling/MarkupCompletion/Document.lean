import MarkupCompletion.Markup.Scan

/-
  A document that is read as it is edited.

  A `Document` holds the text read so far, its scan, and checkpoints: earlier
  scans of the same reading, a fixed number of bytes apart. Appending reads only
  what is new. Any other edit goes back to the newest checkpoint that lies
  before the first change, and reads on from there, so what an edit costs is
  bounded by the interval and the distance to the cursor.
-/

namespace MarkupCompletion

/-- A document under edit, read up to the cursor. -/
structure Document where
  voids : VoidElements
  /-- the least number of bytes between checkpoints -/
  interval : Nat
  scan : Scan := {}
  /-- what has been read -/
  text : Text := []
  /-- earlier scans, newest first -/
  checkpoints : List Scan := []
  deriving DecidableEq, Repr

/-- What bringing a document up to date took. -/
structure Update where
  /-- the byte at which reading resumed -/
  resumedAt : Nat
  /-- the number of bytes read -/
  fed : Nat
  /-- whether the doctype is another one than before -/
  doctypeChanged : Bool
  deriving DecidableEq, Repr

def newestOffset (checkpoints : List Scan) : Nat :=
  match checkpoints with
  | [] => 0
  | s :: _ => s.consumed

/-- Reads a text and takes a checkpoint at every character end that lies at
least `interval` bytes after the newest one. -/
def Scan.feedMarking (v : VoidElements) (interval : Nat) :
    Text → Scan → List Scan → Scan × List Scan
  | [], s, checkpoints => (s, checkpoints)
  | c :: cs, s, checkpoints =>
    let s := s.step v c
    let checkpoints :=
      if interval ≤ s.consumed - newestOffset checkpoints then s :: checkpoints else checkpoints
    feedMarking v interval cs s checkpoints

namespace Document

/-- A document of which nothing has been read. An interval of zero counts as one. -/
def new (voids : VoidElements) (interval : Nat) : Document :=
  { voids, interval := max interval 1 }

def feed (d : Document) (chunk : Text) : Document :=
  let (scan, checkpoints) := d.scan.feedMarking d.voids d.interval chunk d.checkpoints
  { d with scan, checkpoints, text := d.text ++ chunk }

/-- The document as it was at the newest checkpoint at or before `offset`. -/
def rollBack (d : Document) (offset : Nat) : Document :=
  let checkpoints := d.checkpoints.dropWhile fun s => offset < s.consumed
  let scan := checkpoints.head?.getD {}
  { d with scan, checkpoints, text := Text.upTo d.text scan.consumed }

def append (d : Document) (chunk : Text) : Document × Update :=
  let after := d.feed chunk
  (after, ⟨d.scan.consumed, Text.size chunk, after.scan.doctype != d.scan.doctype⟩)

/-- Brings the document up to date with `text`, read up to byte `cursor`. A
cursor past the end is at the end, and one inside a character before it. -/
def update (d : Document) (text : Text) (cursor : Nat) : Document × Update :=
  let target := Text.upTo text cursor
  let common := Text.commonSize d.text target
  -- an edit that keeps all that was read is a continuation of it
  let kept := if common < Text.size d.text then d.rollBack common else d
  let pending := Text.beyond target kept.scan.consumed
  let after := kept.feed pending
  (after, ⟨kept.scan.consumed, Text.size pending, after.scan.doctype != d.scan.doctype⟩)

def finish (d : Document) : Document := { d with scan := d.scan.finish }

def reset (d : Document) : Document := { d with scan := {}, text := [], checkpoints := [] }

end Document

end MarkupCompletion
