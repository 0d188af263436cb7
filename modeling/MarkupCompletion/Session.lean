import MarkupCompletion.Completion.Proposal
import MarkupCompletion.Document
import MarkupCompletion.Markup.Cursor

/-
  A session: one open document and what is needed to complete in it.

  The schema of the document is looked up when it is first needed and is used
  from then on, also when the registry is replaced, until the doctype of the
  document changes or the document is closed.
-/

namespace MarkupCompletion

/-- The schema in use, once it has been looked up. -/
structure Resolver where
  cached : Option (Option Schema) := none

namespace Resolver

/-- The schema in use. If there is none yet, it is the one that the registry has
for the doctype. -/
def resolve (v : Resolver) (r : Registry) (doctype : Option Doctype) : Option Schema × Resolver :=
  match v.cached with
  | some schema => (schema, v)
  | none => (r.select doctype, ⟨some (r.select doctype)⟩)

def invalidate (_ : Resolver) : Resolver := {}

/-- Whether a schema, or the lack of one, is settled. -/
def isResolved (v : Resolver) : Bool := v.cached.isSome

end Resolver

/-- An open document with its registry and library. -/
structure Session where
  registry : Registry
  library : Library := {}
  extras : CompletionSettings
  document : Document
  resolver : Resolver := {}

namespace Session

def new (registry : Registry) (library : Library) (s : Settings) : Session :=
  { registry, library
    extras := s.completion
    document := Document.new s.parser.voids s.parser.interval }

/-- What is known of the document up to the cursor. -/
def scan (s : Session) : Scan := s.document.scan

def cursor (s : Session) : Cursor := s.scan.cursor

/-- The session after its document was read further; another doctype may mean
another schema. -/
def afterUpdate (s : Session) (update : Document × Update) : Session × Update :=
  let (document, report) := update
  -- an edit that leaves the doctype as it was keeps the schema
  let resolver := if report.doctypeChanged then s.resolver.invalidate else s.resolver
  ({ s with document, resolver }, report)

/-- Brings the session up to date with `text`, read up to byte `cursor`. -/
def edit (s : Session) (text : Text) (cursor : Nat) : Session × Update :=
  s.afterUpdate (s.document.update text cursor)

def append (s : Session) (chunk : Text) : Session × Update :=
  s.afterUpdate (s.document.append chunk)

def finish (s : Session) : Session := { s with document := s.document.finish }

def close (s : Session) : Session :=
  { s with document := s.document.reset, resolver := s.resolver.invalidate }

/-- Replaces the registry. A schema in use stays in use. -/
def reload (s : Session) (registry : Registry) : Session := { s with registry }

def schema (s : Session) : Option Schema × Session :=
  let (schema, resolver) := s.resolver.resolve s.registry s.scan.doctype
  (schema, { s with resolver })

/-- The session with the library that a request left. -/
def afterRequest (s : Session) (outcome : Outcome) : Option (List Candidate) × Session :=
  (outcome.1, { s with library := outcome.2 })

def proposeElements (s : Session) (c : Cancellation) : Option (List Candidate) × Session :=
  let (schema, s) := s.schema
  s.afterRequest
    (s.library.proposeElements s.extras schema s.scan.parent? s.scan.doctype.isSome c)

/-- The attributes that `element` may have beside the existing ones. Outside an
opening tag there are none. -/
def proposeAttributes (s : Session) (element : Text) (existing : Attributes) (c : Cancellation) :
    Option (List Candidate) × Session :=
  if !s.scan.place.inOpeningTag then (c.answer [], s)
  else
    let (schema, s) := s.schema
    s.afterRequest (s.library.proposeAttributes schema element existing c)

/-- The values that an attribute may have. Outside an opening tag there are none. -/
def proposeValues (s : Session) (element key : Text) (c : Cancellation) :
    Option (List Candidate) × Session :=
  if !s.scan.place.inOpeningTag then (c.answer [], s)
  else
    let (schema, s) := s.schema
    s.afterRequest (s.library.proposeValues schema element key c)

/-- The doctype declarations of the registered schemas. -/
def proposeDoctypes (s : Session) (c : Cancellation) : Option (List Candidate) :=
  s.registry.proposeDoctypes c

def proposeClosing (s : Session) (c : Cancellation) : Option (List Candidate) :=
  MarkupCompletion.proposeClosing s.scan.enclosing c

def complete (s : Session) (c : Cancellation) : Option (List Candidate) × Session :=
  match s.cursor with
  | .text _ | .tagOpen _ => s.proposeElements c
  | .attributeName element _ existing => s.proposeAttributes element existing c
  | .attributeValue element key _ => s.proposeValues element key c
  | .closingTag _ => (s.proposeClosing c, s)
  | .doctype => (s.proposeDoctypes c, s)
  | .comment | .cdata => (c.answer [], s)

/-- Reads ahead what the registered schemas need. -/
def preload (s : Session) : Session := { s with library := s.registry.preload s.library }

end Session

end MarkupCompletion
