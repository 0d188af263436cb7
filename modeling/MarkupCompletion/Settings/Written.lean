import MarkupCompletion.Settings.Basic
import MarkupCompletion.Toml.Written

/-
  Settings as they are written to a file: every setting in a fixed order, those
  that are absent left out, and the catalog as an array of tables.
-/

namespace MarkupCompletion

open Toml

def setting (key : Text) (v : Value) : Statement := .pair [key] v

def settingIfAny (key : Text) (t : Option Text) : List Statement :=
  match t with
  | some t => [setting key (.string t)]
  | none => []

def nameList (names : List Text) : Value := .array false (names.map .string)

def CatalogEntry.statements (e : CatalogEntry) : List Statement :=
  [.arrayHeader ["schemas", "catalog"], setting "name" (.string e.name)] ++
  settingIfAny "fpi" e.fpi ++ settingIfAny "doctype" e.doctype ++
  [setting "path" (.string e.path)]

def SchemaSettings.statements (s : SchemaSettings) : List Statement :=
  [.header ["schemas"], setting "default" (.string s.fallback),
   setting "builtin" (.boolean s.builtin)] ++
  settingIfAny "directory" s.directory ++ [setting "preload" (.boolean s.preload)] ++
  if s.catalog.isEmpty then [setting "catalog" (.array false [])]
  else s.catalog.flatMap CatalogEntry.statements

def ParserSettings.statements (s : ParserSettings) : List Statement :=
  [.header ["parser"], setting "checkpoint_interval" (.integer s.interval),
   setting "void_elements" (nameList s.voidNames)]

def CompletionSettings.statements (s : CompletionSettings) : List Statement :=
  [.header ["completion"], setting "misc_begin_tags" (.boolean s.miscBeginTags),
   setting "suggest_doctype" (.boolean s.suggestDoctype)]

def LoggingSettings.statements (s : LoggingSettings) : List Statement :=
  [.header ["logging"], setting "level" (.string s.level.name),
   setting "timestamps" (.boolean s.timestamps)]

def Settings.statements (s : Settings) : List Statement :=
  s.schemas.statements ++ s.parser.statements ++ s.completion.statements ++ s.logging.statements

def Settings.written (s : Settings) : Text := Toml.write s.statements

end MarkupCompletion
