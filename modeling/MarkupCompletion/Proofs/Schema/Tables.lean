import MarkupCompletion.Completion.Proposal

/-
  Registries whose schemas are all tables.

  A table answers at once and from itself, so a request to one leaves the
  library as it was (`ask_snd`), and a request that is not cancelled gets a list
  (`ask_isSome`). The three kinds of request are one function, `Library.ask`, of
  the query and of what is made of the reply. What a registry selects is one of
  its schemas (`mem_of_select`), so both facts hold of every request to a schema
  that a registry of tables selects.
-/

namespace MarkupCompletion

/-- Whether a schema, if there is one, answers from a definition. -/
def IsTable (schema : Option Schema) : Prop := ∀ s ∈ schema, ∃ d, s.source = .table d

theorem IsTable.filter {schema : Option Schema} (h : IsTable schema) (p : Schema → Bool) :
    IsTable (schema.filter p) := by
  intro s hs
  exact h s (Option.mem_filter_iff.1 hs).1

namespace Registry

/-- Whether all schemas answer from definitions. -/
def TableBacked (r : Registry) : Prop := ∀ s ∈ r.schemas, ∃ d, s.source = .table d

theorem tableBacked_of_definitions {r : Registry} (ds : List Definition)
    (h : r.schemas = ds.map Schema.ofDefinition) : r.TableBacked := by
  intro s hs
  rw [h, List.mem_map] at hs
  obtain ⟨d, -, rfl⟩ := hs
  exact ⟨d, rfl⟩

theorem mem_of_get? {r : Registry} {fpi : Text} {s : Schema} (h : r.get? fpi = some s) :
    s ∈ r.schemas := by
  obtain ⟨i, -, hi⟩ := Option.bind_eq_some_iff.1 h
  exact List.mem_of_getElem? hi

theorem mem_of_default? {r : Registry} {s : Schema} (h : r.default? = some s) :
    s ∈ r.schemas := by
  obtain ⟨i, -, hi⟩ := Option.bind_eq_some_iff.1 h
  exact List.mem_of_getElem? hi

theorem mem_of_select {r : Registry} {doctype : Option Doctype} {s : Schema}
    (h : r.select doctype = some s) : s ∈ r.schemas := by
  simp only [select] at h
  split at h
  · exact mem_of_default? h
  · next fpi _ =>
    cases hget : r.get? fpi with
    | some found =>
      rw [hget] at h
      exact mem_of_get? (hget.trans h)
    | none =>
      rw [hget] at h
      exact mem_of_default? h

theorem TableBacked.select {r : Registry} (h : r.TableBacked) (doctype : Option Doctype) :
    IsTable (r.select doctype) := by
  intro s hs
  exact h s (mem_of_select hs)

end Registry

namespace Library

theorem request_table_snd (l : Library) (c : Cancellation) (d : Definition) (q : Query) :
    (l.request c (.table d) q).2 = l := by
  simp only [request]
  split
  · rfl
  · rfl

theorem request_table_never (l : Library) (d : Definition) (q : Query) :
    (l.request .never (.table d) q).1 = some (.ok (d.answer q)) := by
  simp [request, answer]

/-- What comes of a request to a schema: with none there is nothing to propose,
and the reply of one is made into a list by `f`. -/
def ask (l : Library) (c : Cancellation) (schema : Option Schema) (q : Query)
    (f : Except Failure (List Candidate) → List Candidate) : Outcome :=
  match schema with
  | none => (c.answer [], l)
  | some s => ((l.request c s.source q).1.map f, (l.request c s.source q).2)

theorem proposeElements_eq (l : Library) (x : CompletionSettings) (schema : Option Schema)
    (parent : Option Text) (hasDoctype : Bool) (c : Cancellation) :
    l.proposeElements x schema parent hasDoctype c =
      l.ask c schema (Query.elements parent)
        (fun r => r.toOption.getD [] ++ x.beginTags hasDoctype) := by
  cases schema <;> rfl

theorem proposeAttributes_eq (l : Library) (schema : Option Schema) (element : Text)
    (existing : Attributes) (c : Cancellation) :
    l.proposeAttributes schema element existing c =
      l.ask c (schema.filter fun _ => !hasNamespace element) (.attributes (Text.lower element))
        (fun r => (r.toOption.getD []).filter fun a => !existing.has a.text) := by
  unfold proposeAttributes ask
  cases schema.filter fun _ => !hasNamespace element with
  | none => rfl
  | some s => rfl

theorem proposeValues_eq (l : Library) (schema : Option Schema) (element key : Text)
    (c : Cancellation) :
    l.proposeValues schema element key c =
      l.ask c (schema.filter fun _ => !hasNamespace element) (.values element key)
        (fun r => r.toOption.getD []) := by
  unfold proposeValues ask
  cases schema.filter fun _ => !hasNamespace element with
  | none => rfl
  | some s => rfl

theorem ask_table {s : Schema} {d : Definition} (h : s.source = .table d) (l : Library)
    (q : Query) (f : Except Failure (List Candidate) → List Candidate) :
    l.ask .never (some s) q f = (some (f (.ok (d.answer q))), l) := by
  simp only [ask, h, request_table_never, request_table_snd]
  rfl

variable {schema : Option Schema}

/-- A request to a table, or to no schema, changes nothing in the library. -/
theorem ask_snd (h : IsTable schema) (l : Library) (c : Cancellation) (q : Query)
    (f : Except Failure (List Candidate) → List Candidate) : (l.ask c schema q f).2 = l := by
  cases schema with
  | none => rfl
  | some s =>
    obtain ⟨d, hd⟩ := h s rfl
    simp only [ask, hd]
    exact request_table_snd l c d q

/-- A request to a table, or to no schema, that is not cancelled gets a list. -/
theorem ask_isSome (h : IsTable schema) (l : Library) (q : Query)
    (f : Except Failure (List Candidate) → List Candidate) :
    (l.ask .never schema q f).1.isSome := by
  cases schema with
  | none => rfl
  | some s =>
    obtain ⟨d, hd⟩ := h s rfl
    rw [ask_table hd]
    rfl

end Library

end MarkupCompletion
