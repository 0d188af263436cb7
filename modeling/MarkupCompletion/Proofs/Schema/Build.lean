import MarkupCompletion.Schema.Registry

/-
  What a registry that was built holds.

  An index gives the place of each key (`IsIndex`). A schema is registered where none of
  its keys has a place yet (`add_eq_ok_iff`), so both indices stay indices as the list
  grows (`Indexed.pushed`), and in a registry that was built a schema is found by its
  public identifier, and by its name, if and only if it is registered (`get?_eq_some_iff`,
  `named?_eq_some_iff`).
-/

namespace MarkupCompletion

/-- Whether `index` gives for each key the only place of the list where it stands. -/
def IsIndex (key : Schema → Option Text) (schemas : List Schema) (index : List (Text × Nat)) :
    Prop :=
  ∀ k i, index.lookup k = some i ↔ schemas[i]?.bind key = some k

namespace IsIndex

variable {key : Schema → Option Text} {schemas : List Schema} {index : List (Text × Nat)}
  {s : Schema} {k : Text}

theorem nil : IsIndex key [] [] := fun _ _ => ⟨nofun, nofun⟩

theorem bind_getElem?_concat (schemas : List Schema) (s : Schema) (i : Nat) :
    (schemas ++ [s])[i]?.bind key =
      if i = schemas.length then key s else schemas[i]?.bind key := by
  split
  · next h => rw [h, List.getElem?_concat_length, Option.bind_some]
  · next h =>
    rcases Nat.lt_or_gt_of_ne h with hlt | hgt
    · rw [List.getElem?_append_left hlt]
    · have hpast : (schemas ++ [s]).length ≤ i := by
        rw [List.length_append, List.length_singleton]
        exact hgt
      rw [List.getElem?_eq_none hpast, List.getElem?_eq_none (Nat.le_of_lt hgt)]

theorem lookup_ne_length (h : IsIndex key schemas index) (k : Text) :
    index.lookup k ≠ some schemas.length := by
  intro hk
  have hplace := (h k schemas.length).1 hk
  rw [List.getElem?_eq_none (Nat.le_refl _)] at hplace
  cases hplace

theorem concat_of_none (h : IsIndex key schemas index) (hs : key s = none) :
    IsIndex key (schemas ++ [s]) index := by
  intro k i
  rw [bind_getElem?_concat, h k i]
  split
  · next hi =>
    rw [hs, ← h k i, hi]
    exact ⟨fun hk => absurd hk (h.lookup_ne_length k), nofun⟩
  · exact Iff.rfl

theorem concat_of_some (h : IsIndex key schemas index) (hs : key s = some k)
    (hk : index.lookup k = none) :
    IsIndex key (schemas ++ [s]) ((k, schemas.length) :: index) := by
  intro k' i
  rw [bind_getElem?_concat, List.lookup_cons, hs]
  by_cases hsame : k' = k
  · subst hsame
    have hnew : schemas[i]?.bind key ≠ some k' := by
      intro hold
      rw [← h k' i, hk] at hold
      cases hold
    simp only [beq_self_eq_true, Option.some.injEq]
    by_cases hi : i = schemas.length
    · rw [if_pos hi, hi]
      exact iff_of_true rfl rfl
    · rw [if_neg hi]
      exact iff_of_false (Ne.symm hi) hnew
  · simp only [beq_false_of_ne hsame]
    by_cases hi : i = schemas.length
    · rw [if_pos hi, hi]
      refine iff_of_false (h.lookup_ne_length k') ?_
      rintro ⟨⟩
      exact hsame rfl
    · rw [if_neg hi]
      exact h k' i

theorem found_iff (h : IsIndex key schemas index) (k : Text) (s : Schema) :
    ((index.lookup k).bind fun i => schemas[i]?) = some s ↔ s ∈ schemas ∧ key s = some k := by
  rw [Option.bind_eq_some_iff]
  constructor
  · rintro ⟨i, hi, hs⟩
    have hkey := (h k i).1 hi
    rw [hs] at hkey
    exact ⟨List.mem_of_getElem? hs, hkey⟩
  · rintro ⟨hmem, hkey⟩
    obtain ⟨i, hs⟩ := List.mem_iff_getElem?.1 hmem
    exact ⟨i, (h k i).2 (by rw [hs]; exact hkey), hs⟩

theorem eq_of_key (h : IsIndex key schemas index) {s s' : Schema} (hs : s ∈ schemas)
    (hs' : s' ∈ schemas) (hk : key s = some k) (hk' : key s' = some k) : s = s' := by
  have hfound := (h.found_iff k s).2 ⟨hs, hk⟩
  rw [(h.found_iff k s').2 ⟨hs', hk'⟩] at hfound
  exact (Option.some.inj hfound).symm

end IsIndex

namespace Registry

/-- Whether the indices of a registry give the places of its schemas. -/
structure Indexed (r : Registry) : Prop where
  names : IsIndex (fun s => some s.name) r.schemas r.byName
  fpis : IsIndex Schema.fpi r.schemas r.byFpi

variable {r r' : Registry} {s : Schema}

/-- The registry with a schema after the others, whatever is registered. -/
def pushed (r : Registry) (s : Schema) : Registry :=
  { r with
    schemas := r.schemas ++ [s]
    byName := (s.name, r.schemas.length) :: r.byName
    byFpi := (s.fpi.map fun f => (f, r.schemas.length)).toList ++ r.byFpi }

/-- A schema is registered if neither its name nor its public identifier is taken. -/
theorem add_eq_ok_iff :
    r.add s = .ok r' ↔
      r.byName.lookup s.name = none ∧ (∀ f ∈ s.fpi, r.byFpi.lookup f = none) ∧
      r' = r.pushed s := by
  cases hname : r.byName.lookup s.name with
  | some i => simp only [add, hname, Option.isSome_some, if_true, reduceCtorEq, false_and]
  | none =>
    cases hfpi : s.fpi with
    | none =>
      simp only [add, pushed, hname, hfpi, Option.isSome_none, Bool.false_eq_true, if_false,
        Except.ok.injEq, Option.map_none, Option.toList_none, List.nil_append, true_and]
      exact ⟨fun h => ⟨nofun, h.symm⟩, fun h => h.2.symm⟩
    | some f =>
      cases htaken : r.byFpi.lookup f with
      | some i =>
        simp only [add, hname, hfpi, htaken, Option.isSome_none, Option.isSome_some,
          Bool.false_eq_true, if_false, if_true, reduceCtorEq, true_and, false_iff]
        intro h
        have hfree := h.1 f rfl
        rw [htaken] at hfree
        cases hfree
      | none =>
        simp only [add, pushed, hname, hfpi, htaken, Option.isSome_none, Bool.false_eq_true,
          if_false, Except.ok.injEq, Option.map_some, Option.toList_some, List.singleton_append,
          true_and]
        refine ⟨fun h => ⟨?_, h.symm⟩, fun h => h.2.symm⟩
        rintro f' ⟨⟩
        exact htaken

theorem Indexed.empty : Indexed {} := ⟨.nil, .nil⟩

theorem Indexed.pushed (h : r.Indexed) (hname : r.byName.lookup s.name = none)
    (hfpi : ∀ f ∈ s.fpi, r.byFpi.lookup f = none) : (r.pushed s).Indexed := by
  refine ⟨h.names.concat_of_some rfl hname, ?_⟩
  simp only [Registry.pushed]
  cases hf : s.fpi with
  | none => exact h.fpis.concat_of_none hf
  | some f => exact h.fpis.concat_of_some hf (hfpi f hf)

theorem Indexed.foldlM_add {schemas : List Schema} (h : r.Indexed)
    (hr : schemas.foldlM add r = .ok r') : r'.Indexed ∧ r'.schemas = r.schemas ++ schemas := by
  induction schemas generalizing r with
  | nil =>
    cases hr
    exact ⟨h, (List.append_nil _).symm⟩
  | cons s schemas ih =>
    rw [List.foldlM_cons] at hr
    cases hadd : r.add s with
    | error e =>
      rw [hadd] at hr
      cases hr
    | ok r₁ =>
      rw [hadd] at hr
      obtain ⟨hname, hfpi, rfl⟩ := add_eq_ok_iff.1 hadd
      obtain ⟨hindexed, hschemas⟩ := ih (h.pushed hname hfpi) hr
      refine ⟨hindexed, ?_⟩
      rw [hschemas, Registry.pushed, List.append_assoc]
      rfl

theorem build_indexed {schemas : List Schema} {fallback : Option Text}
    (hr : build schemas fallback = .ok r) : r.Indexed ∧ r.schemas = schemas := by
  cases hall : schemas.foldlM add {} with
  | error e =>
    rw [build, hall] at hr
    cases hr
  | ok r₁ =>
    rw [build, hall] at hr
    obtain ⟨hindexed, hschemas⟩ := Indexed.empty.foldlM_add hall
    cases fallback with
    | none =>
      cases hr
      exact ⟨hindexed, hschemas⟩
    | some name =>
      change r₁.withDefault name = .ok r at hr
      simp only [withDefault] at hr
      split at hr
      · cases hr
        exact ⟨⟨hindexed.names, hindexed.fpis⟩, hschemas⟩
      · cases hr

theorem Indexed.get?_eq_some_iff (h : r.Indexed) {fpi : Text} :
    r.get? fpi = some s ↔ s ∈ r.schemas ∧ s.fpi = some fpi := h.fpis.found_iff fpi s

theorem Indexed.named?_eq_some_iff (h : r.Indexed) {name : Text} :
    r.named? name = some s ↔ s ∈ r.schemas ∧ s.name = name := by
  rw [named?, h.names.found_iff, Option.some.injEq]

/-- A document whose doctype has the public identifier of a schema has that schema. -/
theorem Indexed.select_eq_some (h : r.Indexed) (hs : s ∈ r.schemas) {fpi : Text}
    (hfpi : s.fpi = some fpi) {d : Doctype} (hd : d.publicId = some fpi) :
    r.select (some d) = some s := by
  have hget : r.get? fpi = some s := h.get?_eq_some_iff.2 ⟨hs, hfpi⟩
  have hsame : d.fpi = some fpi := by
    rw [Doctype.fpi, hd]
    exact Option.filter_eq_some_iff.2 ⟨rfl, (Option.filter_eq_some_iff.1 hfpi).2⟩
  simp only [select, Option.bind_some, hsame, hget]
  rfl

end Registry

end MarkupCompletion
