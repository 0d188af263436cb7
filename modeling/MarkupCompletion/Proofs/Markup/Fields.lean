import MarkupCompletion.Markup.Cursor

/-
  A place field by field.

  A `Place` holds only what belongs to it. The view here takes the same
  information apart into fields that are there everywhere: the kind of the
  place, the tag that is being read, the open quote, and the buffer of a
  declaration or section. It is this view in which the fields can be said to
  agree with each other, and the cursor depends on nothing else of a place
  (`Scan.cursor_eq_ofFields`).
-/

namespace MarkupCompletion

/-- The kinds of places. -/
inductive Place.Kind where
  | text
  | angle
  | name
  | gap
  | key
  | afterKey
  | beforeValue
  | value
  | slash
  | closing
  | declaration
  | doctype
  | comment
  | cdata
  deriving DecidableEq, Repr

/-- A tag that is being read. -/
structure Tag where
  name : Text
  /-- whether it is a closing tag -/
  closing : Bool
  /-- the attributes read so far -/
  attributes : Attributes
  /-- the name of the attribute that is being read, empty if none is -/
  key : Text
  /-- the value of that attribute as far as it is read -/
  value : Text
  deriving DecidableEq, Repr

namespace TagPart

/-- The kind of place that a part of a tag is. -/
def kind : TagPart → Place.Kind
  | .name => .name
  | .gap => .gap
  | .key _ => .key
  | .afterKey _ => .afterKey
  | .beforeValue _ => .beforeValue
  | .value .. => .value
  | .slash => .slash

/-- The name of the attribute that is being read. -/
def pendingKey : TagPart → Text
  | .key k | .afterKey k | .beforeValue k | .value k _ _ => k
  | .name | .gap | .slash => []

def pendingValue : TagPart → Text
  | .value _ x _ => x
  | _ => []

/-- The quote around the value that is being read. -/
def openQuote? : TagPart → Option Quote
  | .value _ _ q => q
  | _ => none

end TagPart

/-- The kind of place that the inside of a section is. -/
def Section.kind : Section → Place.Kind
  | .comment => .comment
  | .cdata => .cdata

namespace Place

/-- The kind of a place. -/
def kind : Place → Kind
  | .text => .text
  | .angle => .angle
  | .opening _ _ part => part.kind
  | .closing .. => .closing
  | .declaration _ => .declaration
  | .doctype .. => .doctype
  | .skipped kind _ => kind.kind

def tag? : Place → Option Tag
  | .opening name as part => some ⟨name, false, as, part.pendingKey, part.pendingValue⟩
  | .closing name _ => some ⟨name, true, [], [], []⟩
  | _ => none

/-- The character that closes the quote that is open. -/
def quote? : Place → Option Char
  | .opening _ _ part => part.openQuote?.map Quote.char
  | .doctype _ q => q.map Quote.char
  | _ => none

/-- What has been read of a declaration, and what is kept of a section. -/
def buffer : Place → Text
  | .declaration keyword => keyword
  | .doctype body _ => body
  | .skipped _ tail => tail
  | _ => []

end Place

/-- The position of the cursor, from the fields of a place. -/
def Cursor.ofFields (parent : Option Text) (tag : Option Tag) (buffer : Text) :
    Place.Kind → Cursor
  | .text => .text parent
  | .angle | .name => .tagOpen ((tag.map Tag.name).getD [])
  | .declaration => .tagOpen ('!' :: buffer)
  | .gap | .key | .afterKey | .slash =>
    .attributeName ((tag.map Tag.name).getD []) ((tag.map Tag.key).getD [])
      ((tag.map Tag.attributes).getD [])
  | .beforeValue | .value =>
    .attributeValue ((tag.map Tag.name).getD []) ((tag.map Tag.key).getD [])
      ((tag.map Tag.value).getD [])
  | .closing => .closingTag ((tag.map Tag.name).getD [])
  | .doctype => .doctype
  | .comment => .comment
  | .cdata => .cdata

/-- The cursor reads the fields of the place and the innermost open element. -/
theorem Scan.cursor_eq_ofFields (s : Scan) :
    s.cursor = Cursor.ofFields s.parent? s.place.tag? s.place.buffer s.place.kind := by
  simp only [Scan.cursor]
  cases s.place with
  | text => rfl
  | angle => rfl
  | opening name as part => cases part <;> rfl
  | closing name ended => rfl
  | declaration keyword => rfl
  | doctype body quote => rfl
  | skipped kind tail => cases kind <;> rfl

end MarkupCompletion
