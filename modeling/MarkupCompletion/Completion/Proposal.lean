import MarkupCompletion.Text.Lowercase
import MarkupCompletion.Schema.Registry
import MarkupCompletion.Settings.Basic
import MarkupCompletion.Markup.Place

/-
  Proposals: what completion answers.

  A request may be cancelled, and then there is no list, never a part of one.
  Whatever else goes wrong leaves out the candidates of the schema and no more:
  with no schema there is nothing to propose, and of a schema that fails only
  the begin tags that every document has are left.
-/

namespace MarkupCompletion

/-- When a request is cancelled. -/
inductive Cancellation where
  | never
  /-- before it is made -/
  | before
  /-- after it is made, but before anything that has to be waited for -/
  | late
  deriving DecidableEq, Repr

/-- What comes of a request: a list unless it was cancelled, and the library after it. -/
abbrev Outcome := Option (List Candidate) × Library

/-- A list that is there at once, unless the request was cancelled before. -/
def Cancellation.answer (c : Cancellation) (candidates : List Candidate) :
    Option (List Candidate) :=
  if c = .before then none else some candidates

/-- Asks a source unless the request is cancelled first. -/
def Library.request (l : Library) (c : Cancellation) (source : Source) (q : Query) :
    Option (Except Failure (List Candidate)) × Library :=
  if c = .before ∨ (c = .late ∧ l.mustWait source q) then (none, l) else l.answer source q

/-- Whether the name of an element has a namespace. Of those schemas know nothing. -/
def hasNamespace (element : Text) : Bool := element.contains ':'

/-- The begin tags of sections, with their descriptions. -/
def sectionBeginTags : List Candidate :=
  [⟨"!--", .literal, "Comment"⟩, ⟨"![CDATA[", .literal, "Character data"⟩]

def doctypeBeginTag : Candidate := ⟨"!DOCTYPE", .literal, "Document type"⟩

/-- The begin tags proposed after the elements of a schema. -/
def CompletionSettings.beginTags (x : CompletionSettings) (hasDoctype : Bool) : List Candidate :=
  (if x.miscBeginTags then sectionBeginTags else []) ++
  if x.suggestDoctype && !hasDoctype then [doctypeBeginTag] else []

/-- The query for the elements inside a parent, or for those at the root. -/
def Query.elements : Option Text → Query
  | some parent => .children (Text.lower parent)
  | none => .roots

/-- The elements that may stand inside `parent`, then begin tags. -/
def Library.proposeElements (l : Library) (x : CompletionSettings) (schema : Option Schema)
    (parent : Option Text) (hasDoctype : Bool) (c : Cancellation) : Outcome :=
  match schema with
  | none => (c.answer [], l)
  | some s =>
    let (reply, l) := l.request c s.source (Query.elements parent)
    (reply.map fun r => r.toOption.getD [] ++ x.beginTags hasDoctype, l)

/-- The attributes that `element` may have, but for the existing ones. -/
def Library.proposeAttributes (l : Library) (schema : Option Schema) (element : Text)
    (existing : Attributes) (c : Cancellation) : Outcome :=
  match schema.filter (fun _ => !hasNamespace element) with
  | none => (c.answer [], l)
  | some s =>
    let (reply, l) := l.request c s.source (.attributes (Text.lower element))
    (reply.map fun r => (r.toOption.getD []).filter fun a => !existing.has a.text, l)

/-- The values that the attribute `key` of `element` may have. -/
def Library.proposeValues (l : Library) (schema : Option Schema) (element key : Text)
    (c : Cancellation) : Outcome :=
  match schema.filter (fun _ => !hasNamespace element) with
  | none => (c.answer [], l)
  | some s =>
    let (reply, l) := l.request c s.source (.values element key)
    (reply.map fun r => r.toOption.getD [], l)

/-- The doctype declarations of the registered schemas. -/
def Registry.proposeDoctypes (r : Registry) (c : Cancellation) : Option (List Candidate) :=
  c.answer r.doctypes

/-- The open elements, innermost first, each name once. -/
def closingCandidates (enclosing : List Text) : List Candidate :=
  (firstSpellings id enclosing).map fun name => ⟨name, .closingTag, []⟩

/-- The names of the open elements, of which the innermost comes first. -/
def proposeClosing (enclosing : List Text) (c : Cancellation) : Option (List Candidate) :=
  c.answer (closingCandidates enclosing)

end MarkupCompletion
