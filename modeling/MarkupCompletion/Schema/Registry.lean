import MarkupCompletion.Schema.Library
import MarkupCompletion.Schema.Html

/-
  The registry of schemas.

  Schemas are found by name and by public identifier, both to the letter, and
  one of them may be the default. A registry is built from a list in which no
  name and no public identifier occurs twice. It never changes; replacing it
  leaves those who hold the former one undisturbed.
-/

namespace MarkupCompletion

/-- Schemas with their indices. -/
structure Registry where
  /-- in the order of registration -/
  schemas : List Schema := []
  /-- the place of each name -/
  byName : List (Text × Nat) := []
  /-- the place of each public identifier -/
  byFpi : List (Text × Nat) := []
  /-- the place of the default -/
  fallback : Option Nat := none

namespace Registry

def get? (r : Registry) (fpi : Text) : Option Schema :=
  (r.byFpi.lookup fpi).bind fun i => r.schemas[i]?

def named? (r : Registry) (name : Text) : Option Schema :=
  (r.byName.lookup name).bind fun i => r.schemas[i]?

def default? (r : Registry) : Option Schema := r.fallback.bind fun i => r.schemas[i]?

def add (r : Registry) (s : Schema) : Except Failure Registry :=
  if (r.byName.lookup s.name).isSome then .error (.schemaDuplicate s.name)
  else
    let place := r.schemas.length
    let r := { r with schemas := r.schemas ++ [s], byName := (s.name, place) :: r.byName }
    match s.fpi with
    | none => .ok r
    | some fpi =>
      -- the name has been looked at, so it is the one reported if both are taken
      if (r.byFpi.lookup fpi).isSome then .error (.schemaDuplicate fpi)
      else .ok { r with byFpi := (fpi, place) :: r.byFpi }

def withDefault (r : Registry) (name : Text) : Except Failure Registry :=
  match r.byName.lookup name with
  | some i => .ok { r with fallback := some i }
  | none => .error (.schemaUnknownDefault name)

/-- The registry of a list of schemas, with a default if one is named. -/
def build (schemas : List Schema) (fallback : Option Text) : Except Failure Registry := do
  let r ← schemas.foldlM add {}
  match fallback with
  | none => .ok r
  | some name => r.withDefault name

def builtinSchemas : List Schema := Html.definitions.map Schema.ofDefinition

/-- The registry of HTML, with HTML5 as the default. -/
def builtin : Registry := (build builtinSchemas (some Html.defaultName)).toOption.getD {}

/-- The schema that a document with this doctype has: that of its public
identifier, and else the default. -/
def select (r : Registry) (doctype : Option Doctype) : Option Schema :=
  match doctype.bind Doctype.fpi with
  | none => r.default?
  | some fpi => (r.get? fpi) <|> r.default?

/-- Reads what the schemas need before they are used. What cannot be read now is
tried again when it is needed. -/
def preload (r : Registry) (l : Library) : Library :=
  r.schemas.foldl (fun l s => (l.preload s.source).2) l

/-- A candidate for each schema that has a doctype declaration. -/
def doctypes (r : Registry) : List Candidate :=
  r.schemas.filterMap fun s => s.doctype.map fun d => ⟨d, .doctype, s.name⟩

end Registry

end MarkupCompletion
