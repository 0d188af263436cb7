import MarkupCompletion.Settings.Basic
import MarkupCompletion.Toml.Decode

/-
  Settings in TOML: each section is a table, and what is left out has its default.
-/

namespace MarkupCompletion

open Toml

def CatalogEntry.ofToml? (v : Value) : Option CatalogEntry := do
  let es ← v.record? ["name", "fpi", "doctype", "path"]
  some
    { name := ← es.required "name" Value.string?
      fpi := ← es.optional "fpi" Value.string?
      doctype := ← es.optional "doctype" Value.string?
      path := ← es.required "path" Value.string? }

def SchemaSettings.ofToml? (v : Value) : Option SchemaSettings := do
  let d : SchemaSettings := {}
  let es ← v.record? ["default", "builtin", "directory", "preload", "catalog"]
  some
    { fallback := ← es.withDefault "default" d.fallback Value.string?
      builtin := ← es.withDefault "builtin" d.builtin Value.boolean?
      directory := ← es.optional "directory" Value.string?
      preload := ← es.withDefault "preload" d.preload Value.boolean?
      catalog := ← es.withDefault "catalog" d.catalog (Value.list? CatalogEntry.ofToml?) }

def ParserSettings.ofToml? (v : Value) : Option ParserSettings := do
  let d : ParserSettings := {}
  let es ← v.record? ["checkpoint_interval", "void_elements"]
  some
    { interval := ← es.withDefault "checkpoint_interval" d.interval Value.natural?
      voidNames := ← es.withDefault "void_elements" d.voidNames (Value.list? Value.string?) }

def CompletionSettings.ofToml? (v : Value) : Option CompletionSettings := do
  let d : CompletionSettings := {}
  let es ← v.record? ["misc_begin_tags", "suggest_doctype"]
  some
    { miscBeginTags := ← es.withDefault "misc_begin_tags" d.miscBeginTags Value.boolean?
      suggestDoctype := ← es.withDefault "suggest_doctype" d.suggestDoctype Value.boolean? }

def LoggingSettings.ofToml? (v : Value) : Option LoggingSettings := do
  let d : LoggingSettings := {}
  let es ← v.record? ["level", "timestamps"]
  some
    { level := ← es.withDefault "level" d.level (Value.word? LogLevel.ofName?)
      timestamps := ← es.withDefault "timestamps" d.timestamps Value.boolean? }

def Settings.ofToml? (es : Entries) : Option Settings := do
  let es ← es.record? ["schemas", "parser", "completion", "logging"]
  some
    { schemas := ← es.withDefault "schemas" {} SchemaSettings.ofToml?
      parser := ← es.withDefault "parser" {} ParserSettings.ofToml?
      completion := ← es.withDefault "completion" {} CompletionSettings.ofToml?
      logging := ← es.withDefault "logging" {} LoggingSettings.ofToml? }

end MarkupCompletion
