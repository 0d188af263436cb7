import MarkupCompletion.Proofs.Files
import MarkupCompletion.Proofs.Settings.Entries
import MarkupCompletion.Proofs.Toml.Statement
import MarkupCompletion.Settings.Store

/-
  Settings read back from the file that they were saved to.

  Three things lie between. The settings stand for entries, the entries are written as statements
  that are read back (`Settings.isPlain_statements`), since their keys are bare and their values
  plain, and the text is read from the file that it was written to. So settings that can be used
  are what is read from their file (`Settings.saved_read_back`).
-/

namespace MarkupCompletion

open Toml

/-! ## Statements of entries -/

/-- Whether entries can be written as statements that are read back. -/
def ArePlain (es : Entries) : Prop := ∀ e ∈ es, IsBare e.1 ∧ e.2.IsPlain

theorem isBarePath_singleton {key : Text} (h : IsBare key) : IsBarePath [key] :=
  ⟨List.cons_ne_nil _ _, List.forall_mem_singleton.mpr h, by rw [List.length_singleton]; decide⟩

theorem isPlain_pairs {es : Entries} (h : ArePlain es) : ∀ st ∈ pairs es, st.IsPlain := by
  intro st hst
  obtain ⟨e, he, rfl⟩ := List.mem_map.mp hst
  exact .pair (isBarePath_singleton (h e he).1) (h e he).2

theorem isPlain_tableStatements (key : Text) (hkey : IsBare key) {es : Entries}
    (h : ArePlain es) : ∀ st ∈ tableStatements key es, st.IsPlain :=
  List.forall_mem_cons.mpr ⟨.header (isBarePath_singleton hkey), isPlain_pairs h⟩

theorem isPlain_itemStatements {path : List Text} (hpath : IsBarePath path) {es : Entries}
    (h : ArePlain es) : ∀ st ∈ itemStatements path es, st.IsPlain :=
  List.forall_mem_cons.mpr ⟨.arrayHeader hpath, isPlain_pairs h⟩

theorem arePlain_append {es es' : Entries} (h : ArePlain es) (h' : ArePlain es') :
    ArePlain (es ++ es') := by
  intro e he
  exact (List.mem_append.mp he).elim (h e) (h' e)

theorem arePlain_entry {key : Text} (hkey : IsBare key) {v : Value} (hv : v.IsPlain) :
    ArePlain [entry key v] := List.forall_mem_singleton.mpr ⟨hkey, hv⟩

theorem arePlain_entryIfAny {key : Text} (hkey : IsBare key) (t : Option Text) :
    ArePlain (entryIfAny key t) := by
  cases t with
  | none => exact fun e he => absurd he List.not_mem_nil
  | some t => exact arePlain_entry hkey (.string t)

theorem CatalogEntry.arePlain_entries (e : CatalogEntry) : ArePlain e.entries :=
  arePlain_append (arePlain_append (arePlain_append
    (arePlain_entry (by decide) (.string e.name))
    (arePlain_entryIfAny (by decide) e.fpi))
    (arePlain_entryIfAny (by decide) e.doctype))
    (arePlain_entry (by decide) (.string e.path))

theorem SchemaSettings.arePlain_ownEntries (s : SchemaSettings) : ArePlain s.ownEntries :=
  arePlain_append (arePlain_append (arePlain_append
    (arePlain_entry (by decide) (.string s.fallback))
    (arePlain_entry (by decide) (.boolean s.builtin)))
    (arePlain_entryIfAny (by decide) s.directory))
    (arePlain_entry (by decide) (.boolean s.preload))

theorem SchemaSettings.isPlain_statements (s : SchemaSettings) :
    ∀ st ∈ s.statements, st.IsPlain := by
  have hschemas : IsBare "schemas" := by decide
  rw [s.statements_eq]
  split
  · next hcatalog =>
    have hvalue : s.catalogValue.IsPlain := by
      rw [catalogValue, List.isEmpty_iff.mp hcatalog]
      exact .strings []
    exact isPlain_tableStatements _ hschemas
      (arePlain_append s.arePlain_ownEntries (arePlain_entry (by decide) hvalue))
  · intro st hst
    rcases List.mem_append.mp hst with hown | hitems
    · exact isPlain_tableStatements _ hschemas s.arePlain_ownEntries st hown
    · obtain ⟨es, hes, hst⟩ := List.mem_flatMap.mp hitems
      obtain ⟨e, -, rfl⟩ := List.mem_map.mp hes
      have hpath : IsBarePath ["schemas", "catalog"] := ⟨by decide, by decide, by decide⟩
      exact isPlain_itemStatements hpath e.arePlain_entries st hst

theorem ParserSettings.isPlain_statements (s : ParserSettings) (h : s.interval < 2 ^ 63) :
    ∀ st ∈ s.statements, st.IsPlain :=
  isPlain_tableStatements "parser" (by decide)
    (arePlain_append (arePlain_entry (by decide) (.integer (holdsInteger_natCast h)))
      (arePlain_entry (by decide) (.strings s.voidNames)))

theorem CompletionSettings.isPlain_statements (s : CompletionSettings) :
    ∀ st ∈ s.statements, st.IsPlain :=
  isPlain_tableStatements "completion" (by decide)
    (arePlain_append (arePlain_entry (by decide) (.boolean s.miscBeginTags))
      (arePlain_entry (by decide) (.boolean s.suggestDoctype)))

theorem LoggingSettings.isPlain_statements (s : LoggingSettings) :
    ∀ st ∈ s.statements, st.IsPlain :=
  isPlain_tableStatements "logging" (by decide)
    (arePlain_append (arePlain_entry (by decide) (.string s.level.name))
      (arePlain_entry (by decide) (.boolean s.timestamps)))

theorem Settings.isPlain_statements (s : Settings) (h : s.parser.interval < 2 ^ 63) :
    ∀ st ∈ s.statements, st.IsPlain := by
  intro st hst
  rw [statements, List.mem_append, List.mem_append, List.mem_append] at hst
  rcases hst with ((hschemas | hparser) | hcompletion) | hlogging
  · exact s.schemas.isPlain_statements st hschemas
  · exact s.parser.isPlain_statements h st hparser
  · exact s.completion.isPlain_statements st hcompletion
  · exact s.logging.isPlain_statements st hlogging

theorem Settings.parse_written (s : Settings) (h : s.parser.interval < 2 ^ 63) :
    parse s.written = .ok s := by
  rw [parse, Toml.parse, written, read_write (s.isPlain_statements h), s.assemble_statements,
    Option.bind_some, s.ofToml?_entries h, Except.mapError]

/-! ## Files -/

/-- The files with the directories that a path is to stand in. -/
def Files.withParents (fs : Files) (path : Text) : Except FileFault Files :=
  match pathParent path with
  | some parent => fs.makeDirectory parent
  | none => .ok fs

/-- Whether a file can be written at a path: an empty one, and so any other. -/
def Files.IsWritable (fs : Files) (path : Text) : Prop :=
  ∃ made fs', fs.withParents path = .ok made ∧ made.write path (.text []) = .ok fs'

theorem Settings.save_eq_ok {s : Settings} {fs made fs' : Files} {path : Text}
    (hmade : fs.withParents path = .ok made)
    (hwrite : made.write path (.text s.written) = .ok fs') : s.save fs path = .ok fs' := by
  cases hparent : pathParent path with
  | none =>
    simp only [Files.withParents, hparent, Except.ok.injEq] at hmade
    simp only [save, hparent, Except.bind, hmade, hwrite]
  | some parent =>
    simp only [Files.withParents, hparent] at hmade
    simp only [save, hparent, Except.bind, hmade, hwrite]

/-- **Saved settings are read back unchanged.** Settings are given that can be used and whose
interval is a number of 64 bits with a sign, and a path at which a file can be written; their texts
may hold anything. Then they are saved there, and the settings read from there are the same. -/
theorem Settings.saved_read_back (s : Settings) (fs : Files) (path : Text)
    (hcheck : s.check = .ok ()) (hinterval : s.parser.interval < 2 ^ 63)
    (hpath : fs.IsWritable path) :
    ∃ fs', s.save fs path = .ok fs' ∧ fromFile fs' path = .ok s := by
  obtain ⟨made, empty, hmade, hempty⟩ := hpath
  obtain ⟨fs', hwrite⟩ := Files.write_any hempty (.text s.written)
  refine ⟨fs', save_eq_ok hmade hwrite, ?_⟩
  simp only [fromFile, Files.holds_write hwrite, Files.readText_write hwrite,
    s.parse_written hinterval, hcheck, Bool.not_true, Bool.false_eq_true, if_false, bind,
    Except.bind]

/-- Settings whose texts need every form of a string, and escapes in two of them. -/
def Settings.awkward : Settings where
  schemas :=
    { fallback := "\"\\'\n"
      directory := some "a\"\"\"b'c\\"
      catalog :=
        [{ name := "'", fpi := some "", path := "\u0001\r\n\t" },
         { name := "\"\"\"\"", doctype := some "C:\\'", path := "ß∀𝔸" }] }
  parser := { interval := 1, voidNames := ["br", "\u0007\"'", ""] }
  logging := { level := .trace }

theorem Settings.saved_read_back_awkward :
    awkward.check = .ok () ∧ awkward.parser.interval < 2 ^ 63 ∧
      Files.IsWritable {} "settings/deep/file.toml" ∧
      ∃ fs', awkward.save {} "settings/deep/file.toml" = .ok fs' ∧
        fromFile fs' "settings/deep/file.toml" = .ok awkward := by
  have hcheck : awkward.check = .ok () := by decide
  have hpath : Files.IsWritable {} "settings/deep/file.toml" := ⟨_, _, rfl, rfl⟩
  exact ⟨hcheck, by decide, hpath, saved_read_back awkward {} _ hcheck (by decide) hpath⟩

end MarkupCompletion
