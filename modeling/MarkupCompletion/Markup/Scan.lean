import MarkupCompletion.Markup.Place
import MarkupCompletion.Markup.Doctype
import MarkupCompletion.Text.Size

/-
  Reading markup one character at a time.

  A `Scan` is all that is known of a document after a part of it has been read.
  `Scan.step` reads one more character and `Scan.feed` a text, by that same step,
  so a document read in pieces and one read at once give the same scan
  (`feed_append`). Reading never fails; malformed markup is taken as follows:

    - `<` starts a tag wherever it is not shielded, and drops the tag or
      declaration that it interrupts;
    - `<` before a character that starts no name is text;
    - a closing tag closes the nearest element of its name, or the innermost
      element if there is none of that name.
-/

namespace MarkupCompletion

/-- The elements that never have content, by lower-case name. -/
structure VoidElements where
  names : List Text
  deriving DecidableEq, Repr

namespace VoidElements

def ofNames (names : List Text) : VoidElements := ⟨names.map Text.lowerAscii⟩

/-- Whether an element is void, whatever the case of its name. -/
def isVoid (v : VoidElements) (name : Text) : Bool := v.names.contains (Text.lowerAscii name)

def htmlNames : List Text :=
  ["area", "base", "br", "col", "embed", "hr", "img", "input", "link", "meta", "param", "source",
   "track", "wbr"]

def html : VoidElements := ofNames htmlNames

end VoidElements

/-- What is known of a document after reading its start. -/
structure Scan where
  place : Place := .text
  /-- the open elements, innermost first -/
  enclosing : List Text := []
  /-- the last complete doctype -/
  doctype : Option Doctype := none
  /-- how many doctypes have been completed -/
  generation : Nat := 0
  /-- bytes read -/
  consumed : Nat := 0
  deriving DecidableEq, Repr

/-- Closes the nearest element of a name, with all inside it, or the innermost
element if none has that name. -/
def closeNearest (name : Text) (enclosing : List Text) : List Text :=
  match enclosing.dropWhile (fun e => !Text.sameAscii e name) with
  | _ :: outer => outer
  | [] => enclosing.tail

namespace Scan

def stack (s : Scan) : List Text := s.enclosing.reverse

def parent? (s : Scan) : Option Text := s.enclosing.head?

def moveTo (s : Scan) (p : Place) : Scan := { s with place := p }

/-- The end of an opening tag: its element is open from here unless it is void. -/
def openElement (v : VoidElements) (s : Scan) (name : Text) : Scan :=
  { s with
    place := .text
    enclosing := if v.isVoid name then s.enclosing else name :: s.enclosing }

/-- The end of a closing tag. One without a name, or of a void element, closes
nothing. -/
def closeElement (v : VoidElements) (s : Scan) (name : Text) : Scan :=
  { s with
    place := .text
    enclosing :=
      if name.isEmpty || v.isVoid name then s.enclosing else closeNearest name s.enclosing }

def declare (s : Scan) (body : Text) : Scan :=
  { s with
    place := .text
    doctype := some (Doctype.parse body)
    generation := s.generation + 1 }

def readAngle (s : Scan) (c : Char) : Scan :=
  if c = '/' then s.moveTo (.closing [] false)
  else if c = '!' then s.moveTo (.declaration [])
  else if startsName c then s.moveTo (.opening [c] [] .name)
  else s.moveTo .text

def readGap (v : VoidElements) (s : Scan) (name : Text) (as : Attributes) (c : Char) : Scan :=
  if c = '>' then s.openElement v name
  else if c = '/' then s.moveTo (.opening name as .slash)
  else if endsName c then s.moveTo (.opening name as .gap)
  else s.moveTo (.opening name as (.key [c]))

def readOpening (v : VoidElements) (s : Scan) (name : Text) (as : Attributes) (c : Char) :
    TagPart → Scan
  | .name =>
    if c = '>' then s.openElement v name
    else if c = '/' then s.moveTo (.opening name as .slash)
    else if endsName c then s.moveTo (.opening name as .gap)
    else s.moveTo (.opening (name ++ [c]) as .name)
  | .gap => s.readGap v name as c
  | .key k =>
    if c = '=' then s.moveTo (.opening name as (.beforeValue k))
    else if c = '>' then s.openElement v name
    else if c = '/' then s.moveTo (.opening name (as.record k []) .slash)
    else if isBlank c then s.moveTo (.opening name as (.afterKey k))
    else if isQuote c then s
    else s.moveTo (.opening name as (.key (k ++ [c])))
  | .afterKey k =>
    if c = '=' then s.moveTo (.opening name as (.beforeValue k))
    else if c = '>' then s.openElement v name
    else if c = '/' then s.moveTo (.opening name (as.record k []) .slash)
    else if endsName c then s
    else s.moveTo (.opening name (as.record k []) (.key [c]))
  | .beforeValue k =>
    if c = '>' then s.openElement v name
    else if isBlank c then s
    else match Quote.ofChar? c with
      | some q => s.moveTo (.opening name as (.value k [] (some q)))
      | none => s.moveTo (.opening name as (.value k [c] none))
  | .value k x (some q) =>
    if c = q.char then s.moveTo (.opening name (as.record k x) .gap)
    else s.moveTo (.opening name as (.value k (x ++ [c]) (some q)))
  | .value k x none =>
    if c = '>' then s.openElement v name
    else if isBlank c then s.moveTo (.opening name (as.record k x) .gap)
    else s.moveTo (.opening name as (.value k (x ++ [c]) none))
  | .slash =>
    -- an element that closes itself is never open
    if c = '>' then s.moveTo .text
    else s.readGap v name as c

def readClosing (v : VoidElements) (s : Scan) (name : Text) (ended : Bool) (c : Char) : Scan :=
  if c = '>' then s.closeElement v name
  else if isBlank c then s.moveTo (.closing name (!name.isEmpty))
  else if ended then s
  else s.moveTo (.closing (name ++ [c]) false)

/-- After `<!`: a doctype, a section, or a declaration that means nothing. -/
def readDeclaration (s : Scan) (keyword : Text) (c : Char) : Scan :=
  let isDoctype := Text.sameAscii keyword "DOCTYPE"
  if c = '>' then
    if isDoctype then s.declare [] else s.moveTo .text
  else if isBlank c && isDoctype then s.moveTo (.doctype [] none)
  else
    let keyword := keyword ++ [c]
    if keyword = Section.comment.opener then s.moveTo (.skipped .comment [])
    else if keyword = Section.cdata.opener then s.moveTo (.skipped .cdata [])
    else s.moveTo (.declaration keyword)

def readDoctype (s : Scan) (body : Text) (quote : Option Quote) (c : Char) : Scan :=
  match quote with
  | some q => s.moveTo (.doctype (body ++ [c]) (if c = q.char then none else some q))
  | none =>
    if c = '>' then s.declare body
    else s.moveTo (.doctype (body ++ [c]) (Quote.ofChar? c))

/-- Inside a section. Of what has been read only as many bytes are kept as the
terminator has. -/
def readSection (s : Scan) (kind : Section) (tail : Text) (c : Char) : Scan :=
  if c = '>' && kind.terminator.isSuffixOf tail then s.moveTo .text
  else s.moveTo (.skipped kind (Text.lastBytes (Text.size kind.terminator) (tail ++ [c])))

def react (v : VoidElements) (s : Scan) (c : Char) : Scan :=
  -- whatever was under construction is dropped with its place
  if c = '<' && !s.place.shieldsAngle then s.moveTo .angle
  else match s.place with
    | .text => s
    | .angle => s.readAngle c
    | .opening name as part => s.readOpening v name as c part
    | .closing name ended => s.readClosing v name ended c
    | .declaration keyword => s.readDeclaration keyword c
    | .doctype body quote => s.readDoctype body quote c
    | .skipped kind tail => s.readSection kind tail c

def step (v : VoidElements) (s : Scan) (c : Char) : Scan :=
  { s.react v c with consumed := s.consumed + c.utf8Size }

def feed (v : VoidElements) (s : Scan) (t : Text) : Scan := t.foldl (step v) s

/-- The end of the document: an unfinished construct is dropped and every element
closed. -/
def finish (s : Scan) : Scan := { s with place := .text, enclosing := [] }

theorem feed_nil (v : VoidElements) (s : Scan) : s.feed v [] = s := rfl

theorem feed_cons (v : VoidElements) (s : Scan) (c : Char) (t : Text) :
    s.feed v (c :: t) = (s.step v c).feed v t := rfl

theorem feed_append (v : VoidElements) (s : Scan) (a b : Text) :
    s.feed v (a ++ b) = (s.feed v a).feed v b :=
  List.foldl_append

end Scan

end MarkupCompletion
