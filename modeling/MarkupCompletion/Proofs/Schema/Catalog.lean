import MarkupCompletion.Proofs.Schema.Build
import MarkupCompletion.Proofs.Schema.Directory
import MarkupCompletion.Proofs.Schema.ReadOnce

/-
  The registry that settings describe.

  The schemas come in three groups, those of HTML, those of a directory and those of the catalog
  (`SchemaSettings.schemas`), and the registry is built from them as from any list
  (`ofSettings_eq`). Of the directory only what can be read is in it, so what cannot is of no
  account (`ofSettings_registers_in_order`). Reading ahead comes after the registry was
  built; it fills the slots of the catalog as far as their files can be read
  (`get?_preloadAll`) and touches nothing else.
-/

namespace MarkupCompletion

/-- The schema of an entry of the catalog, whose definition has a slot. -/
def CatalogEntry.schema (e : CatalogEntry) (slot : Nat) : Schema :=
  { name := e.name, publicId := e.fpi, doctype := e.doctype, source := .file slot e.path }

namespace SchemaSettings

/-- The schemas that settings describe, where these definitions were found in the directory
and the catalog has the slots from this one on. -/
def schemas (s : SchemaSettings) (found : List Definition) (slot : Nat) : List Schema :=
  (if s.builtin then Registry.builtinSchemas else []) ++ found.map .ofDefinition ++
    s.catalog.mapIdx fun i e => e.schema (slot + i)

/-- Whether the directory can be listed, if there is one. -/
def Listable (s : SchemaSettings) (fs : Files) : Prop :=
  ∀ directory ∈ s.directory, ∃ names, fs.list directory = .ok names

/-- The schema files of the directory, if there is one that can be listed. -/
def directoryFiles (s : SchemaSettings) (fs : Files) (parse : Text → Except Text Definition) :
    List (Text × Definition) :=
  match s.directory with
  | none => []
  | some directory =>
    match fs.list directory with
    | .error _ => []
    | .ok names => fs.schemaFiles parse directory names

variable {s : SchemaSettings} {fs fs' : Files} {parse : Text → Except Text Definition}
  {path : Text} {d : Definition}
  {found : List Definition} {slot slot' : Nat}

/-! ## The directory -/

theorem pairwise_directoryFiles (s : SchemaSettings) (hfs : fs.IsTree) :
    (s.directoryFiles fs parse).Pairwise fun a b => a.1 < b.1 := by
  rw [directoryFiles]
  split
  · exact .nil
  · split
    · exact .nil
    next hlist => exact Files.pairwise_schemaFiles hfs hlist

theorem mem_directoryFiles_iff (h : s.Listable fs) :
    (path, d) ∈ s.directoryFiles fs parse ↔
      ∃ directory ∈ s.directory, fs.HoldsSchema parse directory path d := by
  rw [directoryFiles]
  cases hdirectory : s.directory with
  | none => exact iff_of_false nofun nofun
  | some directory =>
    obtain ⟨names, hlist⟩ := h directory hdirectory
    simp only [hlist, Option.mem_some_iff, exists_eq_left']
    exact Files.mem_schemaFiles_iff hlist

theorem directoryFiles_congr (hfs : fs.IsTree) (hfs' : fs'.IsTree)
    (h : ∀ directory ∈ s.directory, fs.SameSchemas parse fs' directory) :
    s.directoryFiles fs parse = s.directoryFiles fs' parse := by
  rw [directoryFiles, directoryFiles]
  cases hdirectory : s.directory with
  | none => rfl
  | some directory =>
    obtain ⟨names, names', hlist, hlist', -⟩ := h directory hdirectory
    simp only [hlist, hlist']
    exact Files.schemaFiles_congr hfs hfs' (h directory hdirectory) hlist hlist'

/-! ## The catalog -/

theorem schema_mem_schemas {i : Nat} {e : CatalogEntry} (he : s.catalog[i]? = some e) :
    e.schema (slot + i) ∈ s.schemas found slot := by
  obtain ⟨hi, rfl⟩ := List.getElem?_eq_some_iff.1 he
  exact List.mem_append_right _ (List.mem_mapIdx.2 ⟨i, hi, rfl⟩)

/-- The files among the sources are those of the catalog, each with the slot of its place. -/
theorem exists_mem_schemas_file_iff :
    (∃ schema ∈ s.schemas found slot, schema.source = .file slot' path) ↔
      ∃ i e, s.catalog[i]? = some e ∧ slot' = slot + i ∧ path = e.path := by
  constructor
  · rintro ⟨schema, hmem, hsource⟩
    simp only [schemas, List.mem_append, List.mem_mapIdx] at hmem
    obtain (hshipped | hfound) | ⟨i, hi, rfl⟩ := hmem
    · split at hshipped
      · obtain ⟨d, -, rfl⟩ := List.mem_map.1 hshipped
        cases hsource
      · cases hshipped
    · obtain ⟨d, -, rfl⟩ := List.mem_map.1 hfound
      cases hsource
    · cases hsource
      exact ⟨i, _, List.getElem?_eq_getElem hi, rfl, rfl⟩
  · rintro ⟨i, e, he, rfl, rfl⟩
    exact ⟨_, schema_mem_schemas he, rfl⟩

end SchemaSettings

namespace Library

variable {l : Library} {slot : Nat} {path : Text} {schemas : List Schema}

def addSlots (l : Library) (n : Nat) : Library := { l with slots := l.slots + n }

theorem catalogSchemas_eq (l : Library) (es : List CatalogEntry) :
    l.catalogSchemas es =
      (es.mapIdx fun i e => e.schema (l.slots + i), l.addSlots es.length) := by
  induction es generalizing l with
  | nil => rfl
  | cons e es ih =>
    simp only [catalogSchemas, addSlot, addSlots, ih, List.mapIdx_cons, List.length_cons,
      Nat.add_assoc, Nat.add_comm 1]
    rfl

/-! ## Reading ahead -/

theorem files_preload (l : Library) (source : Source) : (l.preload source).2.files = l.files :=
  (l.handle_kept (.preload source)).1

theorem readDefinition_preload (l : Library) (source : Source) (path : Text) :
    (l.preload source).2.readDefinition path = l.readDefinition path := by
  obtain ⟨hfiles, hparse, -⟩ := l.handle_kept (.preload source)
  exact congrArg₂ (fun fs parse => fs.readDefinition path parse) hfiles hparse

theorem get?_preload (l : Library) (source : Source)
    (h : ∀ path', source = .file slot path' → path' = path) :
    (l.preload source).2.get? slot =
      (l.get? slot).or
        (if source = .file slot path then (l.readDefinition path).toOption else none) := by
  cases source with
  | file slot' path' =>
    by_cases hslot : slot' = slot
    · subst hslot
      cases h path' rfl
      rw [if_pos rfl]
      exact get?_fetch l slot' path
    · have hother : Source.file slot' path' ≠ .file slot path := by
        rintro ⟨⟩
        exact hslot rfl
      rw [if_neg hother, Option.or_none]
      exact get?_fetch_of_ne l (Ne.symm hslot) path'
  | table _ | provider _ => exact (Option.or_none).symm

theorem files_preloadAll (l : Library) (schemas : List Schema) :
    (schemas.foldl (fun l s => (l.preload s.source).2) l).files = l.files := by
  induction schemas generalizing l with
  | nil => rfl
  | cons s schemas ih => rw [List.foldl_cons, ih, files_preload]

/-- Reading sources ahead fills a slot from its file if it was empty, and if it is the slot
of one of them. -/
theorem get?_preloadAll (l : Library)
    (h : ∀ s ∈ schemas, ∀ path', s.source = .file slot path' → path' = path) :
    (schemas.foldl (fun l s => (l.preload s.source).2) l).get? slot =
      (l.get? slot).or
        (if ∃ s ∈ schemas, s.source = .file slot path then
          (l.readDefinition path).toOption
        else none) := by
  induction schemas generalizing l with
  | nil =>
    rw [if_neg (by rintro ⟨s, hs, -⟩; cases hs), Option.or_none]
    rfl
  | cons s schemas ih =>
    obtain ⟨hs, hschemas⟩ := List.forall_mem_cons.1 h
    rw [List.foldl_cons, ih _ hschemas, get?_preload l s.source hs, readDefinition_preload,
      Option.or_assoc]
    congr 1
    simp only [List.exists_mem_cons_iff]
    by_cases hsource : s.source = .file slot path
    · -- read twice or once, the file is the same
      simp only [if_pos hsource, if_pos (Or.inl hsource)]
      split
      · exact Option.or_self
      · exact Option.or_none
    · rw [if_neg hsource, Option.none_or]
      simp only [hsource, false_or]

end Library

namespace Registry

variable {s : SchemaSettings} {l l' : Library} {r : Registry} {found : List Definition}
  {slot : Nat}

/-- The registry of settings is built from the schemas that they describe, and the files of
the catalog are read after that, if at all. -/
theorem ofSettings_eq (h : s.Listable l.files) :
    ofSettings s l =
      (build (s.schemas ((s.directoryFiles l.files l.parse).map Prod.snd) l.slots)
        (some s.fallback)).map fun r =>
          (r, if s.preload then r.preload (l.addSlots s.catalog.length)
            else l.addSlots s.catalog.length) := by
  simp only [ofSettings, Library.catalogSchemas_eq, SchemaSettings.schemas,
    SchemaSettings.directoryFiles, bind, Except.bind]
  cases hdirectory : s.directory with
  | none =>
    simp only [List.map_nil]
    cases build _ _ with
    | error e => rfl
    | ok r => rfl
  | some directory =>
    obtain ⟨names, hnames⟩ := h directory hdirectory
    simp only [Files.directorySchemas_eq hnames, hnames, List.map_map, Function.comp_def]
    cases build _ _ with
    | error e => rfl
    | ok r => rfl

theorem map_fst_ofSettings (h : s.Listable l.files) :
    (ofSettings s l).map Prod.fst =
      build (s.schemas ((s.directoryFiles l.files l.parse).map Prod.snd) l.slots)
        (some s.fallback) := by
  rw [ofSettings_eq h]
  cases build _ _ with
  | error e => rfl
  | ok r => rfl

theorem ofSettings_eq_ok (h : s.Listable l.files) (hok : ofSettings s l = .ok (r, l')) :
    r.schemas = s.schemas ((s.directoryFiles l.files l.parse).map Prod.snd) l.slots ∧
      l' = if s.preload then r.preload (l.addSlots s.catalog.length)
        else l.addSlots s.catalog.length := by
  rw [ofSettings_eq h] at hok
  cases hbuild : build (s.schemas ((s.directoryFiles l.files l.parse).map Prod.snd) l.slots)
      (some s.fallback) with
  | error e =>
    rw [hbuild] at hok
    cases hok
  | ok r' =>
    rw [hbuild] at hok
    cases hok
    exact ⟨(build_indexed hbuild).2, rfl⟩

/-- The schemas of settings fill the slots of the catalog when they are read ahead, and none that
was given out before. -/
theorem get?_preload_of_catalog (hr : r.schemas = s.schemas found slot) {i : Nat}
    {e : CatalogEntry} (he : s.catalog[i]? = some e) :
    (r.preload l).get? (slot + i) =
      (l.get? (slot + i)).or (l.readDefinition e.path).toOption := by
  have hsource : ∃ schema ∈ r.schemas, schema.source = .file (slot + i) e.path := by
    rw [hr]
    exact SchemaSettings.exists_mem_schemas_file_iff.2 ⟨i, e, he, rfl, rfl⟩
  have hpath : ∀ schema ∈ r.schemas, ∀ path, schema.source = .file (slot + i) path →
      path = e.path := by
    intro schema hmem path hfile
    rw [hr] at hmem
    obtain ⟨i', e', he', hslot, rfl⟩ :=
      SchemaSettings.exists_mem_schemas_file_iff.1 ⟨schema, hmem, hfile⟩
    obtain rfl : i = i' := Nat.add_left_cancel hslot
    rw [he] at he'
    cases he'
    rfl
  rw [preload, Library.get?_preloadAll l hpath, if_pos hsource]

theorem get?_preload_of_lt (hr : r.schemas = s.schemas found slot) {slot' : Nat}
    (hslot : slot' < slot) : (r.preload l).get? slot' = l.get? slot' := by
  have hnone (path : Text) : ¬ ∃ schema ∈ r.schemas, schema.source = .file slot' path := by
    rw [hr, SchemaSettings.exists_mem_schemas_file_iff]
    rintro ⟨i, e, -, rfl, -⟩
    omega
  rw [preload, Library.get?_preloadAll l fun schema hmem path hfile =>
    absurd ⟨schema, hmem, hfile⟩ (hnone path), if_neg (hnone []), Option.or_none]

/-- **A registry has the schemas that its settings describe, in their order.** If the settings
name no directory, or one that can be listed, they give what comes of building a registry, or
the failure to build it, from the schemas of HTML unless they are left out, then the
definitions in the schema files of the directory, in the order of their paths, and then the
entries of the catalog. Any tree in which the directory has the same schemas gives the same,
so what is passed over may come and go, and it does not matter whether the catalog is read
ahead. If it is, the slot of each entry holds afterwards what can be read from its file, and
if not, the slots are empty. -/
theorem ofSettings_registers_in_order (s : SchemaSettings) (l : Library) (hl : l.Tidy)
    (hfiles : l.files.IsTree) (hlist : s.Listable l.files) :
    (∃ found : List (Text × Definition),
      (found.Pairwise fun a b => a.1 < b.1) ∧
      (∀ path d, (path, d) ∈ found ↔
        ∃ directory ∈ s.directory, l.files.HoldsSchema l.parse directory path d) ∧
      (ofSettings s l).map Prod.fst =
        build (s.schemas (found.map Prod.snd) l.slots) (some s.fallback)) ∧
    (∀ files preload, files.IsTree →
      (∀ directory ∈ s.directory, l.files.SameSchemas l.parse files directory) →
      (ofSettings { s with preload } { l with files }).map Prod.fst =
        (ofSettings s l).map Prod.fst) ∧
    (∀ r l', ofSettings s l = .ok (r, l') →
      l'.files = l.files ∧ (∀ slot < l.slots, l'.get? slot = l.get? slot) ∧
      ∀ i e, s.catalog[i]? = some e →
        e.schema (l.slots + i) ∈ r.schemas ∧
        l'.get? (l.slots + i) =
          if s.preload then (l.readDefinition e.path).toOption else none) := by
  refine ⟨⟨s.directoryFiles l.files l.parse, s.pairwise_directoryFiles hfiles,
    fun path d => SchemaSettings.mem_directoryFiles_iff hlist, ?_⟩, ?_, ?_⟩
  · exact map_fst_ofSettings hlist
  · intro files preload htree hsame
    have hlist' : SchemaSettings.Listable { s with preload } files := by
      intro directory hdirectory
      obtain ⟨-, names', -, h, -⟩ := hsame directory hdirectory
      exact ⟨names', h⟩
    have hfound : SchemaSettings.directoryFiles { s with preload } files l.parse =
        s.directoryFiles l.files l.parse :=
      (SchemaSettings.directoryFiles_congr hfiles htree hsame).symm
    rw [map_fst_ofSettings hlist, map_fst_ofSettings (l := { l with files }) hlist', hfound]
    rfl
  · intro r l' hok
    obtain ⟨hr, rfl⟩ := ofSettings_eq_ok hlist hok
    have hempty (i : Nat) : (l.addSlots s.catalog.length).get? (l.slots + i) = none :=
      hl.get?_eq_none (Nat.le_add_right _ _)
    have hmem (i : Nat) (e : CatalogEntry) (he : s.catalog[i]? = some e) :
        e.schema (l.slots + i) ∈ r.schemas := by
      rw [hr]
      exact SchemaSettings.schema_mem_schemas he
    split
    · refine ⟨Library.files_preloadAll _ r.schemas, fun slot hslot => ?_,
        fun i e he => ⟨hmem i e he, ?_⟩⟩
      · rw [get?_preload_of_lt hr hslot]
        rfl
      · rw [get?_preload_of_catalog hr he, hempty, Option.none_or]
        rfl
    · exact ⟨rfl, fun _ _ => rfl, fun i e he => ⟨hmem i e he, hempty i⟩⟩

/-- A directory with two schemas and much that is passed over, some of which is removed and
replaced, and a catalog with a file that is missing. -/
theorem ofSettings_registers_in_order_among_unreadable :
    let text (t : Text) : Entry := .file (.text t)
    let entries : List (Location × Entry) :=
      [(["schemas"], .directory), (["schemas", "z.toml"], text "name = 'omega'"),
        (["schemas", "broken.toml"], text "name = ["), (["schemas", "bare.toml"], text ""),
        (["schemas", "raw.toml"], .file .binary), (["schemas", "sub.toml"], .directory),
        (["schemas", "read.me"], text "name = 'other'"),
        (["schemas", "a.toml"], text "name = 'alpha'"), (["memo.toml"], text "name = 'memo'")]
    let l : Library := { files := { entries } }
    let others := (l.files.remove "schemas/broken.toml").put "schemas/new.toml" .directory
    let s : SchemaSettings :=
      { fallback := "alpha", builtin := false, directory := some "schemas", preload := true
        catalog := [{ name := "memo", path := "memo.toml" }, { name := "b", path := "b.toml" }] }
    let alpha : Text × Definition := ("schemas/a.toml", { name := "alpha" })
    let omega : Text × Definition := ("schemas/z.toml", { name := "omega" })
    let r := ((build (s.schemas [alpha.2, omega.2] 0) (some "alpha")).toOption).getD {}
    l.Tidy ∧ l.files.IsTree ∧ s.Listable l.files ∧ others.IsTree ∧
    (∀ directory ∈ s.directory, l.files.SameSchemas l.parse others directory) ∧
    (∃ found : List (Text × Definition),
      (found.Pairwise fun a b => a.1 < b.1) ∧ alpha ∈ found ∧ omega ∈ found ∧
      (ofSettings s l).map Prod.fst =
        build (s.schemas (found.map Prod.snd) l.slots) (some s.fallback)) ∧
    (ofSettings { s with preload := false } { l with files := others }).map Prod.fst =
      (ofSettings s l).map Prod.fst ∧
    ∃ l', ofSettings s l = .ok (r, l') ∧
      l'.get? 0 = some { name := "memo" } ∧ l'.get? 1 = none := by
  intro text entries l others s alpha omega r
  have hl : l.Tidy := nofun
  have hfiles : l.files.IsTree := by decide +kernel
  have hothers : others.IsTree := (hfiles.remove _).put _ _
  have hnames : l.files.list "schemas" = .ok
      ["a.toml", "bare.toml", "broken.toml", "raw.toml", "read.me", "sub.toml", "z.toml"] :=
    hfiles.list_eq_ok_iff.2 ⟨["schemas"], by decide +kernel⟩
  have hnames' : others.list "schemas" = .ok
      ["a.toml", "bare.toml", "new.toml", "raw.toml", "read.me", "sub.toml", "z.toml"] :=
    hothers.list_eq_ok_iff.2 ⟨["schemas"], by decide +kernel⟩
  have hlist : s.Listable l.files := by
    rintro directory ⟨⟩
    exact ⟨_, hnames⟩
  have hsame : ∀ directory ∈ s.directory, l.files.SameSchemas l.parse others directory := by
    rintro directory ⟨⟩
    exact ⟨_, _, hnames, hnames', by decide +kernel⟩
  have hfound : s.directoryFiles l.files l.parse = [alpha, omega] := by
    simp only [SchemaSettings.directoryFiles, s, hnames]
    decide +kernel
  have hbuilt : (build (s.schemas [alpha.2, omega.2] 0) (some "alpha")).toOption.isSome = true := by
    decide +kernel
  have hr : build (s.schemas [alpha.2, omega.2] 0) (some "alpha") = .ok r := by
    cases hbuild : build (s.schemas [alpha.2, omega.2] 0) (some "alpha") with
    | error e =>
      rw [hbuild] at hbuilt
      cases hbuilt
    | ok built => simp only [r, hbuild, Except.toOption, Option.getD_some]
  have hok : ofSettings s l = .ok (r, r.preload (l.addSlots 2)) := by
    rw [ofSettings_eq hlist, hfound]
    exact congrArg (Except.map _) hr
  obtain ⟨⟨found, hsorted, hmem, hbuild⟩, hsettled, hread⟩ :=
    ofSettings_registers_in_order s l hl hfiles hlist
  obtain ⟨-, -, hslots⟩ := hread r _ hok
  refine ⟨hl, hfiles, hlist, hothers, hsame, ⟨found, hsorted, ?_, ?_, hbuild⟩,
    hsettled others false hothers hsame, _, hok, ?_, ?_⟩
  · exact (hmem _ _).2 ⟨_, rfl, (Files.mem_schemaFiles_iff hnames).1 (by decide +kernel)⟩
  · exact (hmem _ _).2 ⟨_, rfl, (Files.mem_schemaFiles_iff hnames).1 (by decide +kernel)⟩
  · rw [show _ = _ from (hslots 0 _ rfl).2]
    decide +kernel
  · rw [show _ = _ from (hslots 1 _ rfl).2]
    decide +kernel

end Registry

end MarkupCompletion
