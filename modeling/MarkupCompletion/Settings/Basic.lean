import MarkupCompletion.Failure
import MarkupCompletion.Schema.Html
import MarkupCompletion.Markup.Scan

/-
  Settings.

  Every setting has a default, so a file may leave out any of them. `check`
  refuses the values with which nothing could work.
-/

namespace MarkupCompletion

inductive LogLevel where
  | error
  | warn
  | info
  | debug
  | trace
  deriving DecidableEq, Repr

/-- A schema file known by what it answers to. -/
structure CatalogEntry where
  name : Text
  fpi : Option Text := none
  doctype : Option Text := none
  path : Text
  deriving DecidableEq, Repr

/-- Where schemas come from. -/
structure SchemaSettings where
  /-- the schema used where a document names none that is known -/
  fallback : Text := Html.defaultName
  /-- whether the HTML schemas are there -/
  builtin : Bool := true
  /-- a directory of schema files -/
  directory : Option Text := none
  /-- whether the files of the catalog are read at once -/
  preload : Bool := false
  catalog : List CatalogEntry := []
  deriving DecidableEq, Repr

/-- How documents are read. -/
structure ParserSettings where
  /-- bytes between checkpoints -/
  interval : Nat := 4096
  voidNames : List Text := VoidElements.htmlNames
  deriving DecidableEq, Repr

/-- What is proposed beside the answers of a schema. -/
structure CompletionSettings where
  /-- comments and character data -/
  miscBeginTags : Bool := true
  /-- a doctype, while there is none -/
  suggestDoctype : Bool := true
  deriving DecidableEq, Repr

/-- What is logged and how. -/
structure LoggingSettings where
  level : LogLevel := .warn
  timestamps : Bool := false
  deriving DecidableEq, Repr

structure Settings where
  schemas : SchemaSettings := {}
  parser : ParserSettings := {}
  completion : CompletionSettings := {}
  logging : LoggingSettings := {}
  deriving DecidableEq, Repr

namespace LogLevel

def name : LogLevel → Text
  | .error => "error"
  | .warn => "warn"
  | .info => "info"
  | .debug => "debug"
  | .trace => "trace"

def all : List LogLevel := [.error, .warn, .info, .debug, .trace]

def ofName? (name : Text) : Option LogLevel := all.find? fun l => l.name = name

end LogLevel

def ParserSettings.voids (s : ParserSettings) : VoidElements := VoidElements.ofNames s.voidNames

def isBlankText (t : Text) : Bool := t.all isBlank

namespace Settings

/-- Refuses a blank default schema, checkpoints zero bytes apart, and catalog
entries with blank names. -/
def check (s : Settings) : Except Failure Unit :=
  if isBlankText s.schemas.fallback then
    .error (.settingsValue "schemas.default" s.schemas.fallback)
  else if s.parser.interval = 0 then
    .error (.settingsValue "parser.checkpoint_interval" "0")
  else match s.schemas.catalog.find? fun e => isBlankText e.name with
    | some e => .error (.settingsValue "schemas.catalog.name" e.path)
    | none => .ok ()

end Settings

end MarkupCompletion
