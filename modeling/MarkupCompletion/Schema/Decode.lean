import MarkupCompletion.Schema.Definition
import MarkupCompletion.Toml.Decode
import MarkupCompletion.Toml.Statement

/-
  Schema definitions in TOML.

  Only names are required; what a file leaves out is empty, or absent where
  being absent means something.
-/

namespace MarkupCompletion

open Toml

def AttributeDefinition.ofToml? (v : Value) : Option AttributeDefinition := do
  let es ← v.record? ["name", "description", "values"]
  some
    { name := ← es.required "name" Value.string?
      description := ← es.withDefault "description" [] Value.string?
      values := ← es.withDefault "values" [] (Value.list? Value.string?) }

def ElementDefinition.ofToml? (v : Value) : Option ElementDefinition := do
  let es ← v.record? ["name", "description", "children", "attributes"]
  some
    { name := ← es.required "name" Value.string?
      description := ← es.withDefault "description" [] Value.string?
      children := ← es.optional "children" (Value.list? Value.string?)
      attributes := ← es.withDefault "attributes" [] (Value.list? AttributeDefinition.ofToml?) }

def Definition.ofToml? (es : Entries) : Option Definition := do
  let es ← es.record?
    ["name", "fpi", "doctype", "top_level", "global_attributes", "elements"]
  some
    { name := ← es.required "name" Value.string?
      fpi := ← es.optional "fpi" Value.string?
      doctype := ← es.optional "doctype" Value.string?
      topLevel := ← es.withDefault "top_level" [] (Value.list? Value.string?)
      globalAttributes :=
        ← es.withDefault "global_attributes" [] (Value.list? AttributeDefinition.ofToml?)
      elements := ← es.withDefault "elements" [] (Value.list? ElementDefinition.ofToml?) }

def Definition.parse : Text → Except Text Definition := Toml.parse Definition.ofToml?

end MarkupCompletion
