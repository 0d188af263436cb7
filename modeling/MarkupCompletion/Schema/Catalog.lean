import MarkupCompletion.Schema.Registry
import MarkupCompletion.Settings.Basic

/-
  The registry that settings describe.

  First come the schemas of HTML, then the files of a directory, which are read
  at once since only they tell what they answer to, and last the catalog, whose
  files are read when they are needed. A file of the directory that cannot be
  read is passed over.
-/

namespace MarkupCompletion

def Library.directorySchemas (l : Library) (directory : Text) : Except Failure (List Schema) := do
  let paths ← l.files.schemaPaths directory
  .ok (paths.filterMap fun path => (l.readDefinition path).toOption.map Schema.ofDefinition)

def Library.catalogSchemas : Library → List CatalogEntry → List Schema × Library
  | l, [] => ([], l)
  | l, e :: es =>
    let (slot, l) := l.addSlot
    let (schemas, l) := catalogSchemas l es
    ({ name := e.name, publicId := e.fpi, doctype := e.doctype, source := .file slot e.path } ::
      schemas, l)

namespace Registry

def ofSettings (s : SchemaSettings) (l : Library) : Except Failure (Registry × Library) := do
  let found ← match s.directory with
    | none => .ok []
    | some directory => l.directorySchemas directory
  -- nothing of the catalog is read here
  let (listed, l) := l.catalogSchemas s.catalog
  let shipped := if s.builtin then builtinSchemas else []
  let r ← build (shipped ++ found ++ listed) (some s.fallback)
  .ok (r, if s.preload then r.preload l else l)

end Registry

end MarkupCompletion
