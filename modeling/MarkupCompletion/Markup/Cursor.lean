import MarkupCompletion.Markup.Scan

/-
  What a completion at the end of a scan can be for: the kind of the place and
  the names around it.
-/

namespace MarkupCompletion

/-- The kind of position a cursor is at. -/
inductive Cursor where
  /-- character data inside `parent` -/
  | text (parent : Option Text)
  /-- the name of an element or declaration, typed so far -/
  | tagOpen (name : Text)
  /-- the name of an attribute, typed so far, on a tag that has others -/
  | attributeName (element key : Text) (existing : Attributes)
  /-- the value of an attribute, typed so far -/
  | attributeValue (element key value : Text)
  /-- the name in a closing tag, typed so far -/
  | closingTag (name : Text)
  | doctype
  | comment
  | cdata
  deriving DecidableEq, Repr

namespace Cursor

def kind : Cursor → Text
  | .text _ => "text"
  | .tagOpen _ => "tag-open"
  | .attributeName .. => "attribute"
  | .attributeValue .. => "attribute-value"
  | .closingTag _ => "closing-tag"
  | .doctype => "doctype"
  | .comment => "comment"
  | .cdata => "cdata"

/-- The text that an accepted completion replaces. -/
def typed : Cursor → Text
  | .tagOpen name => name
  | .attributeName _ key _ => key
  | .attributeValue _ _ value => value
  | .closingTag name => name
  | .text _ | .doctype | .comment | .cdata => []

def ofTag (name : Text) (as : Attributes) : TagPart → Cursor
  | .name => .tagOpen name
  | .gap | .slash => .attributeName name [] as
  | .key k | .afterKey k => .attributeName name k as
  | .beforeValue k => .attributeValue name k []
  | .value k x _ => .attributeValue name k x

end Cursor

/-- The position right after the last character read. -/
def Scan.cursor (s : Scan) : Cursor :=
  match s.place with
  | .text => .text s.parent?
  | .angle => .tagOpen []
  | .opening name as part => Cursor.ofTag name as part
  | .closing name _ => .closingTag name
  | .declaration keyword => .tagOpen ('!' :: keyword)
  | .doctype .. => .doctype
  | .skipped .comment _ => .comment
  | .skipped .cdata _ => .cdata

end MarkupCompletion
