import MarkupCompletion.Text.Basic

/-
  Completion candidates: what is proposed for the place of the cursor.
-/

namespace MarkupCompletion

/-- What kind of token a candidate is. -/
inductive Category where
  | element
  | attributeName
  | attributeValue
  | literal
  | doctype
  | closingTag
  deriving DecidableEq, Repr

def Category.name : Category → Text
  | .element => "element"
  | .attributeName => "attribute"
  | .attributeValue => "attribute-value"
  | .literal => "literal"
  | .doctype => "doctype"
  | .closingTag => "closing-tag"

def Category.jsonName : Category → Text
  | .doctype => "doc-type"
  | c => c.name

structure Candidate where
  /-- shown, and inserted when accepted -/
  text : Text
  category : Category
  /-- for people to read, perhaps empty -/
  description : Text := []
  deriving DecidableEq, Repr

/-- Keeps the members whose keys have not been seen, the case of ASCII letters apart. -/
def unseen {α : Type} (key : α → Text) (seen : List Text) : List α → List α
  | [] => []
  | a :: as =>
    let k := Text.lowerAscii (key a)
    if seen.contains k then unseen key seen as else a :: unseen key (k :: seen) as

/-- Keeps of the members whose keys are equal up to ASCII case only the first. -/
def firstSpellings {α : Type} (key : α → Text) (as : List α) : List α := unseen key [] as

end MarkupCompletion
