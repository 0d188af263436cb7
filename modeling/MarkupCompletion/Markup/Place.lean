import MarkupCompletion.Markup.Quote

/-
  Where in the markup a reading stands.

  A place holds what has been read of the construct it is in and nothing of any
  other, so an unfinished tag or declaration is gone as soon as the place is
  left.
-/

namespace MarkupCompletion

/-- Attributes of a tag with their values, in the order they were written. -/
abbrev Attributes := List (Text × Text)

namespace Attributes

/-- Whether an attribute of this very name is present. -/
def has (as : Attributes) (name : Text) : Bool := as.any fun a => a.1 == name

/-- Adds an attribute unless one of its name is present: the first value counts. -/
def record (as : Attributes) (name value : Text) : Attributes :=
  if as.has name then as else as ++ [(name, value)]

end Attributes

/-- The part of an opening tag that is being read. -/
inductive TagPart where
  /-- the name of the element -/
  | name
  /-- between attributes -/
  | gap
  /-- the name of an attribute -/
  | key (name : Text)
  /-- blanks after the name of an attribute -/
  | afterKey (name : Text)
  /-- after `=`, before the value -/
  | beforeValue (name : Text)
  /-- a value, in quotes or bare -/
  | value (name value : Text) (quote : Option Quote)
  /-- after a `/` that may close the tag -/
  | slash
  deriving DecidableEq, Repr

/-- Sections of a document that are passed over. -/
inductive Section where
  | comment
  | cdata
  deriving DecidableEq, Repr

def Section.opener : Section → Text
  | .comment => "--"
  | .cdata => "[CDATA["

/-- What stands before the `>` that ends a section. -/
def Section.terminator : Section → Text
  | .comment => "--"
  | .cdata => "]]"

/-- The construct in which a reading stands. -/
inductive Place where
  /-- character data between tags -/
  | text
  /-- just after `<` -/
  | angle
  /-- inside an opening tag -/
  | opening (name : Text) (attributes : Attributes) (part : TagPart)
  /-- inside a closing tag; the name has ended once a blank followed it -/
  | closing (name : Text) (ended : Bool)
  /-- after `<!`, while it is open what is declared -/
  | declaration (keyword : Text)
  /-- inside a doctype declaration, perhaps inside a quoted string of it -/
  | doctype (body : Text) (quote : Option Quote)
  /-- inside a section, with as much of its end as may start the terminator -/
  | skipped (kind : Section) (tail : Text)
  deriving DecidableEq, Repr

namespace Place

def inOpeningTag : Place → Bool
  | .opening .. => true
  | _ => false

/-- Whether `<` has no meaning here: in sections and in the quoted strings of a
doctype. Everywhere else it starts a tag, in quoted values too. -/
def shieldsAngle : Place → Bool
  | .doctype _ (some _) => true
  | .skipped .. => true
  | _ => false

end Place

end MarkupCompletion
