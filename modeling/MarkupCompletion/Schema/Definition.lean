import MarkupCompletion.Completion.Candidate

/-
  Schema definitions: the elements of a kind of document, which elements may
  stand inside which, and the attributes they take.

  A definition answers four queries with lists of candidates. Names are found
  without regard to ASCII case; of two elements, or two attributes, with one
  name the first counts.
-/

namespace MarkupCompletion

/-- An attribute and the values it is known to take. -/
structure AttributeDefinition where
  name : Text
  description : Text := []
  /-- empty for an attribute that takes any value -/
  values : List Text := []
  deriving DecidableEq, Repr

namespace AttributeDefinition

def candidate (a : AttributeDefinition) : Candidate := ⟨a.name, .attributeName, a.description⟩

def valueCandidates (a : AttributeDefinition) : List Candidate :=
  a.values.map fun v => ⟨v, .attributeValue, a.description⟩

def first? (as : List AttributeDefinition) (key : Text) : Option AttributeDefinition :=
  as.find? fun a => Text.sameAscii a.name key

end AttributeDefinition

structure ElementDefinition where
  name : Text
  description : Text := []
  /-- the permitted children; absent if every element is -/
  children : Option (List Text) := none
  attributes : List AttributeDefinition := []
  deriving DecidableEq, Repr

structure Definition where
  name : Text
  /-- the public identifier it answers to -/
  fpi : Option Text := none
  /-- its doctype declaration -/
  doctype : Option Text := none
  /-- the elements that may be the root; none named means every element -/
  topLevel : List Text := []
  /-- the attributes of every element -/
  globalAttributes : List AttributeDefinition := []
  elements : List ElementDefinition := []
  deriving DecidableEq, Repr

/-- What can be asked of a schema. -/
inductive Query where
  /-- the elements that may be the root -/
  | roots
  /-- the elements that may stand inside `parent` -/
  | children (parent : Text)
  /-- the attributes of `element` -/
  | attributes (element : Text)
  /-- the values of the attribute `key` of `element` -/
  | values (element key : Text)
  deriving DecidableEq, Repr

namespace Definition

/-- The place of the first element of each name, by the name in lower case. -/
def index (elements : List ElementDefinition) : List (Text × Nat) :=
  elements.zipIdx.foldl
    (fun index (e, place) =>
      let key := Text.lowerAscii e.name
      if (index.lookup key).isSome then index else (key, place) :: index)
    []

def element? (d : Definition) (name : Text) : Option ElementDefinition :=
  ((index d.elements).lookup (Text.lowerAscii name)).bind fun place => d.elements[place]?

/-- A name as a candidate, with the description of the element it names. -/
def elementCandidate (d : Definition) (name : Text) : Candidate :=
  ⟨name, .element, ((d.element? name).map (·.description)).getD []⟩

def allElements (d : Definition) : List Candidate :=
  d.elements.map fun e => ⟨e.name, .element, e.description⟩

def roots (d : Definition) : List Candidate :=
  if d.topLevel.isEmpty then d.allElements else d.topLevel.map d.elementCandidate

/-- The elements that may stand inside `parent`; inside one that is unknown, all. -/
def children (d : Definition) (parent : Text) : List Candidate :=
  match (d.element? parent).bind (·.children) with
  | some names => names.map d.elementCandidate
  | none => d.allElements

def specificAttributes (d : Definition) (element : Text) : List AttributeDefinition :=
  ((d.element? element).map (·.attributes)).getD []

/-- The attributes of an element, each name once: its own, then those of every element. -/
def attributeDefinitions (d : Definition) (element : Text) : List AttributeDefinition :=
  firstSpellings (·.name) (d.specificAttributes element ++ d.globalAttributes)

def attributes (d : Definition) (element : Text) : List Candidate :=
  (d.attributeDefinitions element).map AttributeDefinition.candidate

/-- The attribute that a name means on an element; one defined for the element hides a
global one. -/
def attribute? (d : Definition) (element key : Text) : Option AttributeDefinition :=
  ((d.element? element).bind fun e => AttributeDefinition.first? e.attributes key) <|>
    AttributeDefinition.first? d.globalAttributes key

def values (d : Definition) (element key : Text) : List Candidate :=
  ((d.attribute? element key).map AttributeDefinition.valueCandidates).getD []

def answer (d : Definition) : Query → List Candidate
  | .roots => d.roots
  | .children parent => d.children parent
  | .attributes element => d.attributes element
  | .values element key => d.values element key

end Definition

end MarkupCompletion
