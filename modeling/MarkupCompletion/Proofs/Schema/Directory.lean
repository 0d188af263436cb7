import Mathlib.Data.List.Sort
import MarkupCompletion.Schema.Catalog

/-
  The schema files of a directory.

  In a tree of files no two entries have the same location, and that is so whatever is put there
  or removed. A directory of a tree lists each name once, in order
  (`IsTree.list_eq_ok_iff`), so the definitions in its files are in the order of their paths,
  and there are no others (`pairwise_schemaFiles`, `mem_schemaFiles_iff`). Such a list is known
  by its members. What is passed over, for its name or because it cannot be read, is none of
  them, and whether it is there makes no difference (`schemaFiles_congr`).
-/

namespace MarkupCompletion

namespace Files

/-- Whether no two entries have the same location. -/
def IsTree (fs : Files) : Prop := (fs.entries.map Prod.fst).Nodup

instance (fs : Files) : Decidable fs.IsTree := inferInstanceAs (Decidable (List.Nodup _))

/-- Whether a directory has a schema file at a path, with this definition in it. -/
def HoldsSchema (fs : Files) (parse : Text → Except Text Definition) (directory path : Text)
    (d : Definition) : Prop :=
  ∃ names name t, fs.list directory = .ok names ∧ name ∈ names ∧
    hasExtension "toml" name = true ∧ path = pathJoin directory name ∧
    fs.look path = .ok (.file (.text t)) ∧ parse t = .ok d

/-- Whether a name in a directory gives no schema: it has another extension, or no definition
can be read there. -/
def PassesOver (fs : Files) (parse : Text → Except Text Definition) (directory name : Text) :
    Prop :=
  hasExtension "toml" name = false ∨
    (fs.readDefinition (pathJoin directory name) parse).toOption = none

instance (fs : Files) (parse : Text → Except Text Definition) (directory name : Text) :
    Decidable (fs.PassesOver parse directory name) :=
  inferInstanceAs (Decidable (_ ∨ _))

/-- Whether two trees have the same in a directory but for names that are passed over in
both, whether they are there or not. -/
def SameSchemas (fs : Files) (parse : Text → Except Text Definition) (fs' : Files)
    (directory : Text) : Prop :=
  ∃ names names', fs.list directory = .ok names ∧ fs'.list directory = .ok names' ∧
    ∀ name ∈ names ++ names',
      (name ∈ names ∧ name ∈ names' ∧
        fs.look (pathJoin directory name) = fs'.look (pathJoin directory name)) ∨
      (fs.PassesOver parse directory name ∧ fs'.PassesOver parse directory name)

/-- The names of the locations straight below a location. -/
def namesBelow (fs : Files) (place : Location) : List Text :=
  (fs.entries.map Prod.fst).filterMap fun p => if p.dropLast = place then p.getLast? else none

/-- Names in the order in which a directory lists them. -/
def inOrder (names : List Text) : List Text :=
  names.mergeSort fun a b => !List.lex b a fun c d => c.toNat < d.toNat

/-- The definitions in the schema files among these names, each with its path. -/
def schemaFiles (fs : Files) (parse : Text → Except Text Definition) (directory : Text)
    (names : List Text) : List (Text × Definition) :=
  ((names.filter (hasExtension "toml")).map (pathJoin directory)).filterMap fun path =>
    (fs.readDefinition path parse).toOption.map fun d => (path, d)

variable {fs fs' : Files} {parse : Text → Except Text Definition} {directory path name : Text}
  {names names' : List Text} {d : Definition} {place : Location}

/-! ## Trees -/

theorem IsTree.filter (h : fs.IsTree) (keep : Location × Entry → Bool) :
    IsTree { fs with entries := fs.entries.filter keep } :=
  h.sublist (List.filter_sublist.map _)

theorem IsTree.set (h : fs.IsTree) (place : Location) (e : Entry) : (fs.set place e).IsTree := by
  have hothers : place ∉ (fs.entries.filter fun x => x.1 != place).map Prod.fst := by
    simp only [List.mem_map, List.mem_filter, bne_iff_ne, not_exists, not_and]
    rintro x ⟨-, hne⟩ heq
    exact hne heq
  rw [IsTree, Files.set, List.map_append, List.map_singleton, List.nodup_append_comm,
    List.singleton_append, List.nodup_cons]
  exact ⟨hothers, h.filter _⟩

theorem IsTree.makeBelow (h : fs.IsTree) (hmade : fs.makeBelow place names = .ok fs') :
    fs'.IsTree := by
  induction names generalizing fs place with
  | nil =>
    cases hmade
    exact h
  | cons name names ih =>
    simp only [Files.makeBelow] at hmade
    split at hmade
    · exact ih h hmade
    split at hmade
    · exact ih h hmade
    split at hmade
    · cases hmade
    split at hmade
    · exact ih h hmade
    · cases hmade
    · exact ih (h.set _ _) hmade

theorem IsTree.put (h : fs.IsTree) (path : Text) (e : Entry) : (fs.put path e).IsTree := by
  simp only [Files.put]
  split
  · exact h
  next made hmade =>
  split
  · exact (h.makeBelow hmade).set _ _
  · exact h

theorem IsTree.remove (h : fs.IsTree) (path : Text) : (fs.remove path).IsTree := by
  rw [Files.remove]
  split
  · exact h.filter _
  · exact h

/-! ## The order of names -/

theorem not_lex_iff_not_lt (a b : Text) :
    (!List.lex b a fun c d => decide (c.toNat < d.toNat)) = true ↔ ¬ b < a := by
  rw [Bool.not_eq_true', ← Bool.not_eq_true]
  exact not_congr List.lex_eq_true_iff_lt

theorem IsTree.nodup_namesBelow (h : fs.IsTree) (place : Location) :
    (fs.namesBelow place).Nodup := by
  refine List.Nodup.filterMap ?_ h
  intro p p' name hp hp'
  obtain ⟨hplace, hlast⟩ := Option.ite_none_right_eq_some.1 hp
  obtain ⟨hplace', hlast'⟩ := Option.ite_none_right_eq_some.1 hp'
  rw [← List.dropLast_append_getLast? name hlast, ← List.dropLast_append_getLast? name hlast',
    hplace, hplace']

theorem list_eq_ok_iff :
    fs.list directory = .ok names ↔
      ∃ place, fs.locate directory = .ok place ∧ fs.entry? place = some .directory ∧
        names = inOrder (fs.namesBelow place) := by
  simp only [list, bind, Except.bind]
  cases fs.locate directory with
  | error fault => exact iff_of_false nofun nofun
  | ok place =>
    simp only [Except.ok.injEq, exists_eq_left']
    split
    next h =>
      rw [h]
      exact iff_of_false nofun nofun
    next h =>
      rw [h]
      exact iff_of_false nofun nofun
    next h =>
      rw [Except.ok.injEq, namesBelow, List.filterMap_map, inOrder]
      exact ⟨fun heq => ⟨h, heq.symm⟩, fun heq => heq.2.symm⟩

theorem pairwise_inOrder (h : names.Nodup) : (inOrder names).Pairwise (· < ·) := by
  have hsorted : (inOrder names).Pairwise fun a b =>
      (!List.lex b a fun c d => decide (c.toNat < d.toNat)) = true := by
    apply List.pairwise_mergeSort
    · intro a b c hab hbc
      rw [not_lex_iff_not_lt, List.not_lt] at hab hbc ⊢
      exact List.le_trans hab hbc
    · intro a b
      simp only [Bool.or_eq_true, not_lex_iff_not_lt, List.not_lt]
      exact List.le_total a b
  refine hsorted.imp₂ ?_ (List.nodup_mergeSort.2 h)
  intro a b hle hne
  rw [not_lex_iff_not_lt, List.not_lt] at hle
  exact (List.le_iff_lt_or_eq.1 hle).resolve_right hne

/-- A directory of a tree lists what stands straight below it, each name once, in order. -/
theorem IsTree.list_eq_ok_iff (hfs : fs.IsTree) :
    fs.list directory = .ok names ↔
      ∃ place, fs.locate directory = .ok place ∧ fs.entry? place = some .directory ∧
        names.Pairwise (· < ·) ∧ names.Perm (fs.namesBelow place) := by
  rw [Files.list_eq_ok_iff]
  refine exists_congr fun place => and_congr_right fun _ => and_congr_right fun _ => ?_
  have hsorted := pairwise_inOrder (hfs.nodup_namesBelow place)
  have hperm : (inOrder (fs.namesBelow place)).Perm (fs.namesBelow place) :=
    List.mergeSort_perm _ _
  constructor
  · rintro rfl
    exact ⟨hsorted, hperm⟩
  · rintro ⟨hnames, hsame⟩
    exact hnames.eq_of_mem_iff hsorted fun name => hsame.mem_iff.trans hperm.mem_iff.symm

theorem pathJoin_lt_pathJoin (directory : Text) {a b : Text} (h : a < b) :
    pathJoin directory a < pathJoin directory b := by
  rw [pathJoin, pathJoin]
  split
  · exact List.append_left_lt h
  · exact List.append_left_lt h

/-! ## Schema files -/

/-- A definition is read from a file with a text that gives it, and from nothing else. -/
theorem toOption_readDefinition_eq_some_iff :
    (fs.readDefinition path parse).toOption = some d ↔
      ∃ t, fs.look path = .ok (.file (.text t)) ∧ parse t = .ok d := by
  rw [readDefinition, readText]
  cases fs.look path with
  | error fault =>
    refine iff_of_false ?_ nofun
    cases fault <;> exact nofun
  | ok e =>
    cases e with
    | directory => exact iff_of_false nofun nofun
    | file content =>
      cases content with
      | binary => exact iff_of_false nofun nofun
      | text t =>
        simp only [bind, Except.bind, Except.ok.injEq, Entry.file.injEq, Content.text.injEq,
          exists_eq_left']
        cases parse t with
        | error message => exact iff_of_false nofun nofun
        | ok d' => simp only [Except.mapError, Except.toOption, Option.some.injEq, Except.ok.injEq]

theorem directorySchemas_eq {l : Library} (h : l.files.list directory = .ok names) :
    l.directorySchemas directory =
      .ok ((l.files.schemaFiles l.parse directory names).map fun f => Schema.ofDefinition f.2) := by
  simp only [Library.directorySchemas, schemaPaths, h, schemaFiles, List.map_filterMap,
    Option.map_map]
  rfl

theorem mem_schemaFiles_iff (h : fs.list directory = .ok names) :
    (path, d) ∈ fs.schemaFiles parse directory names ↔ fs.HoldsSchema parse directory path d := by
  simp only [schemaFiles, List.mem_filterMap, List.mem_map, List.mem_filter,
    Option.map_eq_some_iff, Prod.mk.injEq, toOption_readDefinition_eq_some_iff]
  constructor
  · rintro ⟨-, ⟨name, ⟨hname, hextension⟩, rfl⟩, d, ⟨t, hlook, hread⟩, rfl, rfl⟩
    exact ⟨names, name, t, h, hname, hextension, rfl, hlook, hread⟩
  · rintro ⟨names', name, t, h', hname, hextension, rfl, hlook, hread⟩
    rw [h] at h'
    cases h'
    exact ⟨_, ⟨name, ⟨hname, hextension⟩, rfl⟩, d, ⟨t, hlook, hread⟩, rfl, rfl⟩

/-- The schema files of a directory are in the order of their paths. -/
theorem pairwise_schemaFiles (hfs : fs.IsTree) (h : fs.list directory = .ok names) :
    (fs.schemaFiles parse directory names).Pairwise fun a b => a.1 < b.1 := by
  have hpaths : ((names.filter (hasExtension "toml")).map (pathJoin directory)).Pairwise
      (· < ·) := by
    obtain ⟨-, -, -, hnames, -⟩ := hfs.list_eq_ok_iff.1 h
    refine (hnames.filter _).map _ ?_
    exact fun a b => pathJoin_lt_pathJoin directory
  rw [schemaFiles, List.pairwise_filterMap]
  refine hpaths.imp ?_
  intro path path' hlt f hf f' hf'
  obtain ⟨d, -, rfl⟩ := Option.map_eq_some_iff.1 hf
  obtain ⟨d', -, rfl⟩ := Option.map_eq_some_iff.1 hf'
  exact hlt

/-! ## Two trees -/

theorem SameSchemas.symm (h : fs.SameSchemas parse fs' directory) :
    fs'.SameSchemas parse fs directory := by
  obtain ⟨names, names', hlist, hlist', hnames⟩ := h
  refine ⟨names', names, hlist', hlist, fun name hname => ?_⟩
  obtain ⟨hin, hin', hlook⟩ | ⟨hpass, hpass'⟩ :=
    hnames name (List.mem_append.2 (List.mem_append.1 hname).symm)
  · exact Or.inl ⟨hin', hin, hlook.symm⟩
  · exact Or.inr ⟨hpass', hpass⟩

theorem SameSchemas.holdsSchema (h : fs.SameSchemas parse fs' directory)
    (hholds : fs.HoldsSchema parse directory path d) : fs'.HoldsSchema parse directory path d := by
  obtain ⟨names, names', hlist, hlist', hnames⟩ := h
  obtain ⟨_, name, t, hlisted, hname, hextension, rfl, hlook, hread⟩ := hholds
  rw [hlist] at hlisted
  cases hlisted
  obtain ⟨-, hin', hsame⟩ | ⟨hpass, -⟩ := hnames name (List.mem_append_left _ hname)
  · exact ⟨names', name, t, hlist', hin', hextension, rfl, by rw [← hsame]; exact hlook, hread⟩
  · -- what is passed over holds no schema
    have hdefines := toOption_readDefinition_eq_some_iff.2 ⟨t, hlook, hread⟩
    obtain hother | hnone := hpass
    · rw [hextension] at hother
      cases hother
    · rw [hdefines] at hnone
      cases hnone

/-- Two trees with the same schemas in a directory have the same list of them. -/
theorem schemaFiles_congr (hfs : fs.IsTree) (hfs' : fs'.IsTree)
    (h : fs.SameSchemas parse fs' directory) (hlist : fs.list directory = .ok names)
    (hlist' : fs'.list directory = .ok names') :
    fs.schemaFiles parse directory names = fs'.schemaFiles parse directory names' := by
  have hasymm : Std.Asymm fun a b : Text × Definition => a.1 < b.1 :=
    ⟨fun _ _ => List.lt_asymm⟩
  refine (pairwise_schemaFiles hfs hlist).eq_of_mem_iff (pairwise_schemaFiles hfs' hlist') ?_
  rintro ⟨path, d⟩
  rw [mem_schemaFiles_iff hlist, mem_schemaFiles_iff hlist']
  exact ⟨h.holdsSchema, h.symm.holdsSchema⟩

end Files

end MarkupCompletion
