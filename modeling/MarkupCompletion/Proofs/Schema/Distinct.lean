import MarkupCompletion.Proofs.Schema.Build
import Mathlib.Data.List.Induction
import Mathlib.Data.List.Nodup

/-
  Which lists of schemas make a registry.

  A list makes a registry if no name and no public identifier is in it twice
  (`Registry.Distinct`) and the default, if one is named, is the name of one of its
  schemas. Of a list that does not, the first schema that repeats a key of those before
  it is reported by that key (`Repeats`), and an unknown default only where there is
  none (`build_succeeds_iff_distinct`). In a registry that was built every place that is
  stored is the place of a schema (`InRange`).
-/

namespace MarkupCompletion

theorem Schema.fpi_eq_some_iff {s : Schema} {f : Text} :
    s.fpi = some f ↔ s.publicId = some f ∧ f ≠ [] := by
  simp [Schema.fpi, Option.filter_eq_some_iff]

theorem IsIndex.lookup_eq_none_iff {key : Schema → Option Text} {schemas : List Schema}
    {index : List (Text × Nat)} (h : IsIndex key schemas index) {k : Text} :
    index.lookup k = none ↔ k ∉ schemas.filterMap key := by
  rw [List.mem_filterMap]
  constructor
  · intro hnone hmem
    obtain ⟨s, hs, hk⟩ := hmem
    have hfound := (h.found_iff k s).2 ⟨hs, hk⟩
    rw [hnone] at hfound
    simp at hfound
  · intro hnew
    cases hplace : index.lookup k with
    | none => rfl
    | some i =>
      obtain ⟨s, hs, hk⟩ := Option.bind_eq_some_iff.1 ((h k i).1 hplace)
      exact absurd ⟨s, List.mem_of_getElem? hs, hk⟩ hnew

namespace Registry

variable {r r' : Registry} {s : Schema} {schemas before after : List Schema} {k name : Text}
  {fallback : Option Text}

/-! ## Distinct schemas -/

/-- Whether no name and no public identifier is in a list twice. -/
structure Distinct (schemas : List Schema) : Prop where
  names : (schemas.map Schema.name).Nodup
  fpis : (schemas.filterMap Schema.fpi).Nodup

instance (schemas : List Schema) : Decidable (Distinct schemas) :=
  decidable_of_iff
    ((schemas.map Schema.name).Nodup ∧ (schemas.filterMap Schema.fpi).Nodup)
    ⟨fun ⟨hnames, hfpis⟩ => ⟨hnames, hfpis⟩, fun h => ⟨h.names, h.fpis⟩⟩

/-- Whether `k` is the key by which a schema repeats one of those before it: its name,
or its public identifier if the name is a new one. -/
def Repeats (before : List Schema) (s : Schema) (k : Text) : Prop :=
  s.name ∈ before.map Schema.name ∧ k = s.name ∨
    s.name ∉ before.map Schema.name ∧ s.fpi = some k ∧ k ∈ before.filterMap Schema.fpi

/-- Whether neither the name nor the public identifier of a schema is in a list. -/
structure IsNew (before : List Schema) (s : Schema) : Prop where
  name : s.name ∉ before.map Schema.name
  fpi : ∀ f ∈ s.fpi, f ∉ before.filterMap Schema.fpi

theorem isNew_or_repeats (before : List Schema) (s : Schema) :
    IsNew before s ∨ ∃ k, Repeats before s k := by
  by_cases hname : s.name ∈ before.map Schema.name
  · exact Or.inr ⟨s.name, Or.inl ⟨hname, rfl⟩⟩
  · by_cases hfpi : ∃ f, s.fpi = some f ∧ f ∈ before.filterMap Schema.fpi
    · obtain ⟨f, hf, hmem⟩ := hfpi
      exact Or.inr ⟨f, Or.inr ⟨hname, hf, hmem⟩⟩
    · exact Or.inl ⟨hname, fun f hf hmem => hfpi ⟨f, hf, hmem⟩⟩

theorem Repeats.not_isNew (h : Repeats before s k) : ¬ IsNew before s := by
  intro hnew
  rcases h with ⟨hname, -⟩ | ⟨-, hfpi, hmem⟩
  · exact hnew.name hname
  · exact hnew.fpi k hfpi hmem

theorem Distinct.nil : Distinct [] := ⟨List.nodup_nil, List.nodup_nil⟩

theorem distinct_concat_iff : Distinct (before ++ [s]) ↔ Distinct before ∧ IsNew before s := by
  have hnames : ((before ++ [s]).map Schema.name).Nodup ↔
      s.name ∉ before.map Schema.name ∧ (before.map Schema.name).Nodup := by
    rw [List.map_append, List.map_singleton, ← List.concat_eq_append, List.nodup_concat]
  have hfpis : ((before ++ [s]).filterMap Schema.fpi).Nodup ↔
      (∀ f ∈ s.fpi, f ∉ before.filterMap Schema.fpi) ∧
        (before.filterMap Schema.fpi).Nodup := by
    rw [List.filterMap_append]
    cases hf : s.fpi with
    | none => simp [hf]
    | some f =>
      have hone : [s].filterMap Schema.fpi = [f] := by simp [hf]
      rw [hone, ← List.concat_eq_append, List.nodup_concat]
      simp
  constructor
  · intro h
    obtain ⟨hname, hbefore⟩ := hnames.1 h.names
    obtain ⟨hfpi, hbefore'⟩ := hfpis.1 h.fpis
    exact ⟨⟨hbefore, hbefore'⟩, ⟨hname, hfpi⟩⟩
  · intro ⟨hd, hnew⟩
    exact ⟨hnames.2 ⟨hnew.name, hd.names⟩, hfpis.2 ⟨hnew.fpi, hd.fpis⟩⟩

theorem Distinct.of_append (h : Distinct (before ++ after)) : Distinct before := by
  obtain ⟨hnames, hfpis⟩ := h
  rw [List.map_append] at hnames
  rw [List.filterMap_append] at hfpis
  exact ⟨hnames.of_append_left, hfpis.of_append_left⟩

theorem distinct_or_repeats (schemas : List Schema) :
    Distinct schemas ∨
      ∃ before s after k, schemas = before ++ s :: after ∧ Distinct before ∧
        Repeats before s k := by
  induction schemas using List.reverseRecOn with
  | nil => exact Or.inl Distinct.nil
  | append_singleton schemas s ih =>
    rcases ih with hd | ⟨before, s', after, k, rfl, hbefore, hk⟩
    · rcases isNew_or_repeats schemas s with hnew | ⟨k, hk⟩
      · exact Or.inl (distinct_concat_iff.2 ⟨hd, hnew⟩)
      · exact Or.inr ⟨schemas, s, [], k, rfl, hd, hk⟩
    · exact Or.inr ⟨before, s', after ++ [s], k, by simp, hbefore, hk⟩

theorem Distinct.not_repeats (h : Distinct (before ++ s :: after)) : ¬ Repeats before s k := by
  intro hk
  have hstart : Distinct (before ++ [s] ++ after) := by simpa using h
  exact hk.not_isNew (distinct_concat_iff.1 hstart.of_append).2

/-! ## Registering -/

theorem Indexed.lookup_name_eq_none_iff (h : r.Indexed) :
    r.byName.lookup name = none ↔ name ∉ r.schemas.map Schema.name := by
  rw [h.names.lookup_eq_none_iff, ← List.filterMap_eq_map]
  rfl

theorem Indexed.add_of_isNew (h : r.Indexed) (hnew : IsNew r.schemas s) :
    r.add s = .ok (r.pushed s) ∧ (r.pushed s).Indexed := by
  have hname : r.byName.lookup s.name = none := h.lookup_name_eq_none_iff.2 hnew.name
  have hfpi : ∀ f ∈ s.fpi, r.byFpi.lookup f = none := fun f hf =>
    h.fpis.lookup_eq_none_iff.2 (hnew.fpi f hf)
  exact ⟨add_eq_ok_iff.2 ⟨hname, hfpi, rfl⟩, h.pushed hname hfpi⟩

theorem Indexed.add_of_repeats (h : r.Indexed) (hk : Repeats r.schemas s k) :
    r.add s = .error (.schemaDuplicate k) := by
  rcases hk with ⟨hmem, rfl⟩ | ⟨hnew, hfpi, hmem⟩
  · cases htaken : r.byName.lookup s.name with
    | none => exact absurd hmem (h.lookup_name_eq_none_iff.1 htaken)
    | some i => simp [add, htaken]
  · cases htaken : r.byFpi.lookup k with
    | none => exact absurd hmem (h.fpis.lookup_eq_none_iff.1 htaken)
    | some i => simp [add, h.lookup_name_eq_none_iff.2 hnew, hfpi, htaken]

theorem pushed_schemas (r : Registry) (s : Schema) : (r.pushed s).schemas = r.schemas ++ [s] :=
  rfl

theorem Indexed.foldlM_add_of_distinct (h : r.Indexed) (hd : Distinct (r.schemas ++ schemas)) :
    schemas.foldlM add r = .ok (schemas.foldl Registry.pushed r) := by
  induction schemas generalizing r with
  | nil => rfl
  | cons s schemas ih =>
    have hall : Distinct ((r.pushed s).schemas ++ schemas) := by
      simpa [pushed_schemas] using hd
    obtain ⟨hadd, hindexed⟩ := h.add_of_isNew (distinct_concat_iff.1 hall.of_append).2
    rw [List.foldlM_cons, hadd]
    exact ih hindexed hall

/-- The registry that holds a list of distinct schemas, without a default. -/
def holding (schemas : List Schema) : Registry := schemas.foldl pushed {}

theorem Distinct.foldlM_add (h : Distinct schemas) :
    schemas.foldlM add {} = .ok (holding schemas) :=
  Indexed.empty.foldlM_add_of_distinct h

theorem Distinct.holding_indexed (h : Distinct schemas) :
    (holding schemas).Indexed ∧ (holding schemas).schemas = schemas :=
  Indexed.empty.foldlM_add h.foldlM_add

theorem foldlM_add_of_repeats (h : Distinct before) (hk : Repeats before s k)
    (after : List Schema) :
    (before ++ s :: after).foldlM add {} = .error (.schemaDuplicate k) := by
  obtain ⟨hindexed, hschemas⟩ := h.holding_indexed
  rw [← hschemas] at hk
  rw [List.foldlM_append, h.foldlM_add]
  change (holding before).add s >>= (fun r => after.foldlM add r) = _
  rw [hindexed.add_of_repeats hk]
  rfl

/-- Whether every place that is stored is the place of a schema. -/
structure InRange (r : Registry) : Prop where
  names : ∀ e ∈ r.byName, e.2 < r.schemas.length
  fpis : ∀ e ∈ r.byFpi, e.2 < r.schemas.length
  fallback : ∀ i ∈ r.fallback, i < r.schemas.length

theorem InRange.pushed (h : r.InRange) (s : Schema) : (r.pushed s).InRange := by
  have hlength : (r.pushed s).schemas.length = r.schemas.length + 1 := by
    simp [Registry.pushed]
  refine ⟨?_, ?_, ?_⟩
  · intro e he
    rw [hlength]
    rcases List.mem_cons.1 he with rfl | he
    · exact Nat.lt_succ_self _
    · exact Nat.lt_succ_of_lt (h.names e he)
  · intro e he
    rw [hlength]
    rcases List.mem_append.1 he with he | he
    · simp only [Option.mem_toList, Option.map_eq_some_iff] at he
      obtain ⟨f, -, rfl⟩ := he
      exact Nat.lt_succ_self _
    · exact Nat.lt_succ_of_lt (h.fpis e he)
  · intro i hi
    rw [hlength]
    exact Nat.lt_succ_of_lt (h.fallback i hi)

/-- Registering names no default and stores only places of schemas. -/
theorem holding_inRange (schemas : List Schema) :
    (holding schemas).InRange ∧ (holding schemas).fallback = none := by
  apply List.foldlRecOn schemas pushed (motive := fun r => r.InRange ∧ r.fallback = none)
  · exact ⟨⟨by simp, by simp, by simp⟩, rfl⟩
  · intro r ⟨hrange, hnone⟩ s _
    exact ⟨hrange.pushed s, hnone⟩

/-! ## Building -/

theorem build_of_distinct (h : Distinct schemas) :
    build schemas none = .ok (holding schemas) ∧
      ∀ name, build schemas (some name) = (holding schemas).withDefault name := by
  simp only [build, h.foldlM_add]
  exact ⟨rfl, fun _ => rfl⟩

theorem build_of_repeats (h : Distinct before) (hk : Repeats before s k) (after : List Schema)
    (fallback : Option Text) :
    build (before ++ s :: after) fallback = .error (.schemaDuplicate k) := by
  rw [build, foldlM_add_of_repeats h hk after]
  rfl

theorem Indexed.withDefault (h : r.Indexed) (name : Text) :
    (∃ i s, r.schemas[i]? = some s ∧ s.name = name ∧
      r.withDefault name = .ok { r with fallback := some i }) ∨
    name ∉ r.schemas.map Schema.name ∧
      r.withDefault name = .error (.schemaUnknownDefault name) := by
  cases hplace : r.byName.lookup name with
  | none =>
    right
    exact ⟨h.lookup_name_eq_none_iff.1 hplace, by simp [Registry.withDefault, hplace]⟩
  | some i =>
    left
    obtain ⟨s, hs, hname⟩ := Option.bind_eq_some_iff.1 ((h.names name i).1 hplace)
    exact ⟨i, s, hs, Option.some.inj hname, by simp [Registry.withDefault, hplace]⟩

/-- Whether a registry holds a list of schemas, and a default by its name. -/
structure Holds (r : Registry) (schemas : List Schema) (fallback : Option Text) : Prop where
  listed : r.schemas = schemas
  get? : ∀ f s, r.get? f = some s ↔ s ∈ schemas ∧ s.publicId = some f ∧ f ≠ []
  named? : ∀ name s, r.named? name = some s ↔ s ∈ schemas ∧ s.name = name
  default? : ∀ s, r.default? = some s ↔ s ∈ schemas ∧ fallback = some s.name
  inRange : r.InRange

/-- Why a list of schemas makes no registry with a default. -/
inductive Fault (schemas : List Schema) (fallback : Option Text) : Failure → Prop where
  /-- the first schema that repeats a key of those before it -/
  | duplicate (before : List Schema) (s : Schema) (after : List Schema) (k : Text) :
    schemas = before ++ s :: after → Distinct before → Repeats before s k →
      Fault schemas fallback (.schemaDuplicate k)
  | unknownDefault (name : Text) :
    Distinct schemas → fallback = some name → name ∉ schemas.map Schema.name →
      Fault schemas fallback (.schemaUnknownDefault name)

/-- Distinct schemas are held whatever place is made the one of the default. -/
theorem Distinct.holds (h : Distinct schemas) (place : Option Nat)
    (hplace : ∀ s, (place.bind fun i => schemas[i]?) = some s ↔
      s ∈ schemas ∧ fallback = some s.name)
    (hrange : ∀ i ∈ place, i < schemas.length) :
    { holding schemas with fallback := place }.Holds schemas fallback := by
  obtain ⟨hindexed, hschemas⟩ := h.holding_indexed
  have hstored := (holding_inRange schemas).1
  have hmem (s : Schema) : s ∈ (holding schemas).schemas ↔ s ∈ schemas := by rw [hschemas]
  refine ⟨hschemas, ?_, ?_, ?_, ⟨hstored.names, hstored.fpis, ?_⟩⟩
  · intro f s
    exact hindexed.get?_eq_some_iff.trans (and_congr (hmem s) Schema.fpi_eq_some_iff)
  · intro name s
    exact hindexed.named?_eq_some_iff.trans (and_congr_left' (hmem s))
  · intro s
    simp only [default?, hschemas]
    exact hplace s
  · intro i hi
    rw [hschemas]
    exact hrange i hi

theorem build_cases (schemas : List Schema) (fallback : Option Text) :
    (∃ r, build schemas fallback = .ok r ∧ r.Holds schemas fallback ∧ Distinct schemas ∧
      ∀ name ∈ fallback, name ∈ schemas.map Schema.name) ∨
    ∃ e, build schemas fallback = .error e ∧ Fault schemas fallback e := by
  rcases distinct_or_repeats schemas with hd | ⟨before, s, after, k, rfl, hbefore, hk⟩
  · obtain ⟨hindexed, hschemas⟩ := hd.holding_indexed
    obtain ⟨hnone, hsome⟩ := build_of_distinct hd
    cases fallback with
    | none =>
      left
      have hsame : { holding schemas with fallback := none } = holding schemas := by
        rw [← (holding_inRange schemas).2]
      have hholds : { holding schemas with fallback := none }.Holds schemas none :=
        hd.holds none (by simp) (by simp)
      rw [hsame] at hholds
      exact ⟨holding schemas, hnone, hholds, hd, by simp⟩
    | some name =>
      rcases hindexed.withDefault name with ⟨i, s, hs, hname, hok⟩ | ⟨hunknown, herror⟩
      · left
        rw [hschemas] at hs
        have hmem : s ∈ schemas := List.mem_of_getElem? hs
        refine ⟨_, (hsome name).trans hok, hd.holds (some i) ?_ ?_, hd, ?_⟩
        · intro s'
          rw [Option.bind_some, hs, Option.some.injEq, Option.some.injEq, ← hname]
          constructor
          · intro heq
            rw [← heq]
            exact ⟨hmem, rfl⟩
          · intro ⟨hmem', hsame⟩
            rw [← hschemas] at hmem hmem'
            exact hindexed.names.eq_of_key hmem hmem' rfl (congrArg some hsame.symm)
        · intro j hj
          cases hj
          exact (List.getElem?_eq_some_iff.1 hs).1
        · intro n hn
          cases hn
          exact List.mem_map.2 ⟨s, hmem, hname⟩
      · right
        rw [hschemas] at hunknown
        exact ⟨_, (hsome name).trans herror, Fault.unknownDefault name hd rfl hunknown⟩
  · exact Or.inr ⟨_, build_of_repeats hbefore hk after fallback,
      Fault.duplicate before s after k rfl hbefore hk⟩

theorem Fault.build_eq {e : Failure} (h : Fault schemas fallback e) :
    build schemas fallback = .error e := by
  cases h with
  | duplicate before s after k heq hbefore hk =>
    rw [heq]
    exact build_of_repeats hbefore hk after fallback
  | unknownDefault name hd heq hunknown =>
    obtain ⟨hindexed, hschemas⟩ := hd.holding_indexed
    rw [heq, (build_of_distinct hd).2 name]
    rcases hindexed.withDefault name with ⟨i, s, hs, hname, -⟩ | ⟨-, herror⟩
    · rw [hschemas] at hs
      exact absurd (List.mem_map.2 ⟨s, List.mem_of_getElem? hs, hname⟩) hunknown
    · exact herror

/-- **A list of schemas makes a registry if its keys are distinct.** A registry is built
if and only if no name and no public identifier is in the list twice and the default, if
one is named, is the name of a schema. It holds the list in its order, finds each schema
by its public identifier, unless that is empty, and by its name, and by nothing else, and
stores only places of schemas. If none is built, the first schema that repeats a key of
those before it is reported by that key, the name before the public identifier, and an
unknown default is where no key is repeated. -/
theorem build_succeeds_iff_distinct (schemas : List Schema) (fallback : Option Text) :
    ((∃ r, build schemas fallback = .ok r) ↔
      Distinct schemas ∧ ∀ name ∈ fallback, name ∈ schemas.map Schema.name) ∧
    (∀ r, build schemas fallback = .ok r → r.Holds schemas fallback) ∧
    ∀ e, build schemas fallback = .error e ↔ Fault schemas fallback e := by
  have hcases := build_cases schemas fallback
  refine ⟨⟨?_, ?_⟩, ?_, fun e => ⟨?_, Fault.build_eq⟩⟩
  · intro ⟨r, hr⟩
    rcases hcases with ⟨r', -, -, hdistinct⟩ | ⟨e, he, -⟩
    · exact hdistinct
    · rw [hr] at he
      cases he
  · intro ⟨hd, hknown⟩
    rcases hcases with ⟨r, hr, -⟩ | ⟨e, -, hfault⟩
    · exact ⟨r, hr⟩
    · cases hfault with
      | duplicate before s after k heq _ hk =>
        rw [heq] at hd
        exact absurd hk hd.not_repeats
      | unknownDefault name _ heq hunknown => exact absurd (hknown name heq) hunknown
  · intro r hr
    rcases hcases with ⟨r', hr', hholds, -⟩ | ⟨e, he, -⟩
    · rw [hr] at hr'
      cases hr'
      exact hholds
    · rw [hr] at he
      cases he
  · intro he
    rcases hcases with ⟨r, hr, -⟩ | ⟨e', he', hfault⟩
    · rw [hr] at he
      cases he
    · rw [he] at he'
      cases he'
      exact hfault

/-- An empty public identifier is not repeated by another one, and a public identifier is
not repeated by a name. A schema that repeats the name of one and the public identifier of
another is reported by the name, whatever the default. -/
theorem build_succeeds_iff_distinct_of_empty_identifiers :
    let a : Schema := { name := "a", publicId := some "", source := .stalled }
    let b : Schema := { name := "b", publicId := some "", source := .stalled }
    let c : Schema := { name := "c", publicId := some "a", source := .stalled }
    let d : Schema := { name := "b", publicId := some "a", source := .stalled }
    let r := ((build [a, b, c] (some "b")).toOption).getD {}
    build [a, b, c] (some "b") = .ok r ∧ r.Holds [a, b, c] (some "b") ∧
    build [a, b, c, d, d] (some "x") = .error (.schemaDuplicate "b") ∧
    Fault [a, b, c, d, d] (some "x") (.schemaDuplicate "b") ∧
    Fault [a, b, c] (some "x") (.schemaUnknownDefault "x") := by
  intro a b c d r
  have hr : build [a, b, c] (some "b") = .ok r := rfl
  have hd : build [a, b, c, d, d] (some "x") = .error (.schemaDuplicate "b") := rfl
  have hx : build [a, b, c] (some "x") = .error (.schemaUnknownDefault "x") := rfl
  exact ⟨hr, (build_succeeds_iff_distinct [a, b, c] (some "b")).2.1 r hr, hd,
    ((build_succeeds_iff_distinct [a, b, c, d, d] (some "x")).2.2 _).1 hd,
    ((build_succeeds_iff_distinct [a, b, c] (some "x")).2.2 _).1 hx⟩

end Registry

end MarkupCompletion
