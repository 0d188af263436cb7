import MarkupCompletion.Proofs.Toml.Assembly
import MarkupCompletion.Proofs.Toml.Scalar
import MarkupCompletion.Settings.Decode
import MarkupCompletion.Settings.Written

/-
  The entries that stand for settings.

  Every section has its table, and the catalog is an array in the table of its section. The
  statements of settings describe these entries (`Settings.assemble_statements`), and the entries
  are read as the settings (`Settings.ofToml?_entries`): an entry that is left out is read as the
  absent value that it was written for.
-/

namespace MarkupCompletion

open Toml

/-! ## Entries -/

def entry (key : Text) (v : Value) : Text × Value := (key, v)

def entryIfAny (key : Text) (t : Option Text) : Entries :=
  match t with
  | some t => [entry key (.string t)]
  | none => []

def CatalogEntry.entries (e : CatalogEntry) : Entries :=
  [entry "name" (.string e.name)] ++ entryIfAny "fpi" e.fpi ++ entryIfAny "doctype" e.doctype ++
  [entry "path" (.string e.path)]

/-- The entries on schemas that are not about the catalog. -/
def SchemaSettings.ownEntries (s : SchemaSettings) : Entries :=
  [entry "default" (.string s.fallback), entry "builtin" (.boolean s.builtin)] ++
  entryIfAny "directory" s.directory ++ [entry "preload" (.boolean s.preload)]

def SchemaSettings.catalogValue (s : SchemaSettings) : Value :=
  .array (!s.catalog.isEmpty) (s.catalog.map fun e => .table .header e.entries)

def SchemaSettings.entries (s : SchemaSettings) : Entries :=
  s.ownEntries ++ [entry "catalog" s.catalogValue]

def ParserSettings.entries (s : ParserSettings) : Entries :=
  [entry "checkpoint_interval" (.integer s.interval), entry "void_elements" (nameList s.voidNames)]

def CompletionSettings.entries (s : CompletionSettings) : Entries :=
  [entry "misc_begin_tags" (.boolean s.miscBeginTags),
   entry "suggest_doctype" (.boolean s.suggestDoctype)]

def LoggingSettings.entries (s : LoggingSettings) : Entries :=
  [entry "level" (.string s.level.name), entry "timestamps" (.boolean s.timestamps)]

def Settings.entries (s : Settings) : Entries :=
  [entry "schemas" (.table .header s.schemas.entries),
   entry "parser" (.table .header s.parser.entries),
   entry "completion" (.table .header s.completion.entries),
   entry "logging" (.table .header s.logging.entries)]

/-! ## From statements to entries -/

theorem CatalogEntry.statements_eq (e : CatalogEntry) :
    e.statements = itemStatements ["schemas", "catalog"] e.entries := by
  obtain ⟨name, fpi, doctype, path⟩ := e
  cases fpi <;> cases doctype <;> rfl

theorem CatalogEntry.nodup_entries (e : CatalogEntry) : e.entries.keys.Nodup := by
  obtain ⟨name, fpi, doctype, path⟩ := e
  cases fpi <;> cases doctype <;> simp [entries, entryIfAny, entry, Entries.keys]

theorem SchemaSettings.nodup_ownEntries (s : SchemaSettings) :
    s.ownEntries.keys.Nodup ∧ ("catalog" : Text) ∉ s.ownEntries.keys := by
  obtain ⟨fallback, builtin, directory, preload, catalog⟩ := s
  cases directory <;> simp [ownEntries, entryIfAny, entry, Entries.keys]

theorem SchemaSettings.nodup_entries (s : SchemaSettings) : s.entries.keys.Nodup := by
  obtain ⟨hown, hcatalog⟩ := s.nodup_ownEntries
  have hnodup := List.Nodup.concat hcatalog hown
  rw [List.concat_eq_append] at hnodup
  rwa [SchemaSettings.entries, Entries.keys, List.map_append]

/-- The section on schemas: its table, and the tables of the catalog after it. -/
theorem SchemaSettings.statements_eq (s : SchemaSettings) :
    s.statements = if s.catalog.isEmpty then tableStatements "schemas" s.entries
      else tableStatements "schemas" s.ownEntries ++
        (s.catalog.map CatalogEntry.entries).flatMap (itemStatements ["schemas", "catalog"]) := by
  have hcatalog : (s.catalog.map CatalogEntry.entries).flatMap
      (itemStatements ["schemas", "catalog"]) = s.catalog.flatMap CatalogEntry.statements := by
    rw [List.flatMap_map]
    exact congrArg (s.catalog.flatMap ·) (funext fun e => e.statements_eq.symm)
  rw [hcatalog]
  obtain ⟨fallback, builtin, directory, preload, catalog⟩ := s
  cases directory <;> cases catalog <;> rfl

/-- The catalog stands in the table of its section as the array that its headers make. -/
theorem SchemaSettings.arrayEntry_catalog (s : SchemaSettings) (h : ¬s.catalog.isEmpty = true) :
    arrayEntry "catalog" ((s.catalog.map CatalogEntry.entries).map (.table .header)) =
      [entry "catalog" s.catalogValue] := by
  rw [List.map_map]
  simp [arrayEntry, catalogValue, entry, h]

theorem SchemaSettings.adds_entries (s : SchemaSettings) :
    Adds s.statements [] [entry "schemas" (.table .header s.entries)] := by
  have hnew : ("schemas" : Text) ∉ Entries.keys [] := List.not_mem_nil
  rw [s.statements_eq]
  split
  · exact adds_table hnew s.nodup_entries
  · next hcatalog =>
    obtain ⟨hown, hfresh⟩ := s.nodup_ownEntries
    have hnodup : ∀ table ∈ s.catalog.map CatalogEntry.entries, table.keys.Nodup := by
      intro table htable
      obtain ⟨e, -, rfl⟩ := List.mem_map.mp htable
      exact e.nodup_entries
    have hitems := adds_items (leadsTo_concat hnew) hfresh [] _ hnodup
    simp only [List.nil_append, s.arrayEntry_catalog hcatalog] at hitems
    rw [arrayEntry, List.isEmpty_nil, if_pos rfl, List.append_nil] at hitems
    exact (adds_table hnew hown).append hitems

theorem Settings.assemble_statements (s : Settings) : assemble s.statements = some s.entries := by
  have hparser : s.parser.statements = tableStatements "parser" s.parser.entries := rfl
  have hcompletion : s.completion.statements =
      tableStatements "completion" s.completion.entries := rfl
  have hlogging : s.logging.statements = tableStatements "logging" s.logging.entries := rfl
  refine assemble_of_adds ?_
  rw [statements, hparser, hcompletion, hlogging]
  refine (((s.schemas.adds_entries).append (adds_table ?_ ?_)).append (adds_table ?_ ?_)).append
    (adds_table ?_ ?_)
  all_goals
    simp [Entries.keys, entry, ParserSettings.entries, CompletionSettings.entries,
      LoggingSettings.entries]

/-! ## From entries to settings -/

theorem CatalogEntry.ofToml?_entries (e : CatalogEntry) :
    CatalogEntry.ofToml? (.table .header e.entries) = some e := by
  obtain ⟨name, fpi, doctype, path⟩ := e
  cases fpi <;> cases doctype <;> rfl

theorem Toml.Value.list?_map {α : Type} {read : Value → Option α} {value : α → Value} (xs : List α)
    (h : ∀ x ∈ xs, read (value x) = some x) (byHeaders : Bool) :
    Value.list? read (.array byHeaders (xs.map value)) = some xs := by
  rw [Value.list?]
  induction xs with
  | nil => rfl
  | cons x xs ih =>
    obtain ⟨hx, hxs⟩ := List.forall_mem_cons.mp h
    rw [List.map_cons, List.mapM_cons, hx, ih hxs]
    rfl

theorem Toml.Entries.withDefault_of_get? {α : Type} {es : Entries} {key : Text} {v : Value} {a : α}
    {read : Value → Option α} (hv : es.get? key = some v) (ha : read v = some a) (value : α) :
    es.withDefault key value read = some a := by
  rw [Entries.get?] at hv
  simp only [Entries.withDefault, Entries.optional, hv, ha, Option.map_some, Option.getD_some]

/-- Every setting of the section is there or is absent itself, so no default is taken. -/
theorem SchemaSettings.ofToml?_entries (s : SchemaSettings) :
    SchemaSettings.ofToml? (.table .header s.entries) = some s := by
  have hcatalogValue : Value.list? CatalogEntry.ofToml? s.catalogValue = some s.catalog :=
    Value.list?_map s.catalog (fun e _ => e.ofToml?_entries) _
  have hdefault (value : Text) : s.entries.withDefault "default" value Value.string? =
      some s.fallback := rfl
  have hbuiltin (value : Bool) : s.entries.withDefault "builtin" value Value.boolean? =
      some s.builtin := rfl
  obtain ⟨fallback, builtin, directory, preload, catalog⟩ := s
  generalize hentries : SchemaSettings.entries _ = es at hdefault hbuiltin ⊢
  have hrecord : (Value.table .header es).record?
      ["default", "builtin", "directory", "preload", "catalog"] = some es := by
    subst hentries
    cases directory <;> rfl
  have hdirectory : es.optional "directory" Value.string? = some directory := by
    subst hentries
    cases directory <;> rfl
  have hpreload (value : Bool) : es.withDefault "preload" value Value.boolean? =
      some preload := by
    subst hentries
    cases directory <;> rfl
  have hcatalog (value : List CatalogEntry) :
      es.withDefault "catalog" value (Value.list? CatalogEntry.ofToml?) = some catalog := by
    subst hentries
    cases directory <;> exact Entries.withDefault_of_get? rfl hcatalogValue _
  simp only [SchemaSettings.ofToml?, hrecord, hdefault, hbuiltin, hdirectory, hpreload, hcatalog,
    Option.bind_eq_bind, Option.bind_some]

theorem ParserSettings.ofToml?_entries (s : ParserSettings) (h : s.interval < 2 ^ 63) :
    ParserSettings.ofToml? (.table .header s.entries) = some s := by
  have hlookup : s.entries.get? "checkpoint_interval" = some (.integer s.interval) := rfl
  have hinterval := Entries.withDefault_of_get? hlookup (natural?_natCast h)
  have hnames (value : List Text) : s.entries.withDefault "void_elements" value
      (Value.list? Value.string?) = some s.voidNames :=
    Entries.withDefault_of_get? rfl (Value.list?_map s.voidNames (fun _ _ => rfl) _) _
  have hrecord : (Value.table .header s.entries).record? ["checkpoint_interval", "void_elements"] =
      some s.entries := rfl
  rw [ParserSettings.ofToml?, hrecord, Option.bind_eq_bind, Option.bind_some, hinterval,
    Option.bind_eq_bind, Option.bind_some, hnames, Option.bind_eq_bind, Option.bind_some]

theorem CompletionSettings.ofToml?_entries (s : CompletionSettings) :
    CompletionSettings.ofToml? (.table .header s.entries) = some s := rfl

theorem LoggingSettings.ofToml?_entries (s : LoggingSettings) :
    LoggingSettings.ofToml? (.table .header s.entries) = some s := by
  obtain ⟨level, timestamps⟩ := s
  cases level <;> rfl

theorem Settings.ofToml?_entries (s : Settings) (h : s.parser.interval < 2 ^ 63) :
    Settings.ofToml? s.entries = some s := by
  have hschemas (value : SchemaSettings) :
      s.entries.withDefault "schemas" value SchemaSettings.ofToml? = some s.schemas :=
    Entries.withDefault_of_get? rfl s.schemas.ofToml?_entries _
  have hparser (value : ParserSettings) :
      s.entries.withDefault "parser" value ParserSettings.ofToml? = some s.parser :=
    Entries.withDefault_of_get? rfl (s.parser.ofToml?_entries h) _
  have hcompletion (value : CompletionSettings) :
      s.entries.withDefault "completion" value CompletionSettings.ofToml? = some s.completion :=
    Entries.withDefault_of_get? rfl s.completion.ofToml?_entries _
  have hlogging (value : LoggingSettings) :
      s.entries.withDefault "logging" value LoggingSettings.ofToml? = some s.logging :=
    Entries.withDefault_of_get? rfl s.logging.ofToml?_entries _
  have hrecord : s.entries.record? ["schemas", "parser", "completion", "logging"] =
      some s.entries := rfl
  simp only [Settings.ofToml?, hrecord, hschemas, hparser, hcompletion, hlogging,
    Option.bind_eq_bind, Option.bind_some]

end MarkupCompletion
