import MarkupCompletion.Proofs.Schema.Attributes

/-
  The texts that a definition answers with.

  Whatever is asked of a definition, the names that it answers with are its own, and so are
  the descriptions, but for that of a name that it does not describe (`holds_of_mem_answer`).
  So what holds of its texts holds of its answers.
-/

namespace MarkupCompletion

def AttributeDefinition.texts (a : AttributeDefinition) : List Text :=
  a.name :: a.description :: a.values

def ElementDefinition.texts (e : ElementDefinition) : List Text :=
  e.name :: e.description :: (e.children.getD [] ++ e.attributes.flatMap AttributeDefinition.texts)

namespace Definition

/-- The texts of the elements and attributes of a definition. -/
def texts (d : Definition) : List Text :=
  d.topLevel ++ d.globalAttributes.flatMap AttributeDefinition.texts ++
    d.elements.flatMap ElementDefinition.texts

/-- Whether a candidate is made of texts of the definition; it need not be described. -/
def Holds (d : Definition) (c : Candidate) : Prop :=
  c.text ∈ d.texts ∧ (c.description ∈ d.texts ∨ c.description = [])

variable {d : Definition} {e : ElementDefinition} {a : AttributeDefinition} {t : Text}

/-! ## Elements -/

theorem mem_of_element? {name : Text} (h : d.element? name = some e) : e ∈ d.elements := by
  obtain ⟨i, -, hi⟩ := Option.bind_eq_some_iff.1 h
  exact List.mem_of_getElem? hi

theorem mem_texts_of_element (he : e ∈ d.elements) (ht : t ∈ e.texts) : t ∈ d.texts :=
  List.mem_append_right _ (List.mem_flatMap.2 ⟨e, he, ht⟩)

theorem holds_elementCandidate {name : Text} (hname : name ∈ d.texts) :
    d.Holds (d.elementCandidate name) := by
  refine ⟨hname, ?_⟩
  simp only [elementCandidate]
  cases he : d.element? name with
  | none => exact Or.inr rfl
  | some e =>
    apply Or.inl
    exact mem_texts_of_element (mem_of_element? he) (List.mem_cons_of_mem _ List.mem_cons_self)

theorem holds_of_mem_allElements : ∀ c ∈ d.allElements, d.Holds c := by
  intro c hc
  obtain ⟨e, he, rfl⟩ := List.mem_map.1 hc
  exact ⟨mem_texts_of_element he List.mem_cons_self,
    Or.inl (mem_texts_of_element he (List.mem_cons_of_mem _ List.mem_cons_self))⟩

theorem holds_of_mem_roots : ∀ c ∈ d.roots, d.Holds c := by
  intro c hc
  unfold roots at hc
  split at hc
  · exact holds_of_mem_allElements c hc
  · obtain ⟨name, hname, rfl⟩ := List.mem_map.1 hc
    exact holds_elementCandidate (List.mem_append_left _ (List.mem_append_left _ hname))

theorem holds_of_mem_children {parent : Text} : ∀ c ∈ d.children parent, d.Holds c := by
  intro c hc
  unfold children at hc
  split at hc
  · next names hnames =>
    obtain ⟨e, he, hchildren⟩ := Option.bind_eq_some_iff.1 hnames
    obtain ⟨name, hname, rfl⟩ := List.mem_map.1 hc
    apply holds_elementCandidate
    apply mem_texts_of_element (mem_of_element? he)
    simp only [ElementDefinition.texts, hchildren, Option.getD_some, List.mem_cons,
      List.mem_append]
    exact Or.inr (Or.inr (Or.inl hname))
  · exact holds_of_mem_allElements c hc

/-! ## Attributes -/

/-- The attributes of an element are its own and those of every element. -/
theorem mem_texts_of_attribute {element : Text}
    (ha : a ∈ d.specificAttributes element ++ d.globalAttributes) (ht : t ∈ a.texts) :
    t ∈ d.texts := by
  rcases List.mem_append.1 ha with ha | ha
  · unfold specificAttributes at ha
    cases he : d.element? element with
    | none =>
      rw [he] at ha
      cases ha
    | some e =>
      rw [he] at ha
      apply mem_texts_of_element (mem_of_element? he)
      simp only [ElementDefinition.texts, List.mem_cons, List.mem_append, List.mem_flatMap]
      exact Or.inr (Or.inr (Or.inr ⟨a, ha, ht⟩))
  · apply List.mem_append_left
    exact List.mem_append_right _ (List.mem_flatMap.2 ⟨a, ha, ht⟩)

theorem holds_of_mem_attributes {element : Text} : ∀ c ∈ d.attributes element, d.Holds c := by
  intro c hc
  obtain ⟨a, ha, rfl⟩ := List.mem_map.1 hc
  have hlisted : a ∈ d.specificAttributes element ++ d.globalAttributes :=
    unseen_sublist.subset ha
  exact ⟨mem_texts_of_attribute hlisted List.mem_cons_self,
    Or.inl (mem_texts_of_attribute hlisted (List.mem_cons_of_mem _ List.mem_cons_self))⟩

theorem holds_of_mem_values {element key : Text} : ∀ c ∈ d.values element key, d.Holds c := by
  intro c hc
  unfold values at hc
  cases hfound : d.attribute? element key with
  | none =>
    rw [hfound] at hc
    cases hc
  | some a =>
    rw [hfound] at hc
    obtain ⟨value, hvalue, rfl⟩ := List.mem_map.1 hc
    rw [attribute?_eq_find?] at hfound
    have hlisted := List.mem_of_find?_eq_some hfound
    exact ⟨mem_texts_of_attribute hlisted (List.mem_cons_of_mem _ (List.mem_cons_of_mem _ hvalue)),
      Or.inl (mem_texts_of_attribute hlisted (List.mem_cons_of_mem _ List.mem_cons_self))⟩

theorem holds_of_mem_answer (d : Definition) (q : Query) : ∀ c ∈ d.answer q, d.Holds c := by
  cases q with
  | roots => exact holds_of_mem_roots
  | children parent => exact holds_of_mem_children
  | attributes element => exact holds_of_mem_attributes
  | values element key => exact holds_of_mem_values

end Definition

end MarkupCompletion
