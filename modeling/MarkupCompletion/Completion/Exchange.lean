import MarkupCompletion.Completion.Candidate
import MarkupCompletion.Json

/-
  Candidates in JSON, as editors exchange them.

  A candidate is written as an object of three members. It is also read from an
  array of three values in the order of those members.
-/

namespace MarkupCompletion

def Category.all : List Category :=
  [.element, .attributeName, .attributeValue, .literal, .doctype, .closingTag]

def Category.ofJsonName? (name : Text) : Option Category :=
  Category.all.find? fun c => c.jsonName = name

/-- A category, by its name or as the only key of an object. -/
def Category.ofJson? : Json → Option Category
  | .string name => Category.ofJsonName? name
  | .object [(name, .null)] => Category.ofJsonName? name
  | _ => none

namespace Candidate

def toJson (c : Candidate) : Json :=
  .object
    [("display_text", .string c.text), ("category", .string c.category.jsonName),
     ("description", .string c.description)]

/-- A candidate from the values of its three members. -/
def ofMembers? (text category description : Json) : Option Candidate := do
  some ⟨← text.string?, ← Category.ofJson? category, ← description.string?⟩

def ofJson? : Json → Option Candidate
  | .array [text, category, description] => ofMembers? text category description
  | v => do
    ofMembers? (← v.member? "display_text") (← v.member? "category") (← v.member? "description")

def listToJson (candidates : List Candidate) : Json := .array (candidates.map toJson)

def listOfJson? : Json → Option (List Candidate)
  | .array items => items.mapM ofJson?
  | _ => none

end Candidate

end MarkupCompletion
