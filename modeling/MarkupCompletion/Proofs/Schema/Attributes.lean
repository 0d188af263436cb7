import MarkupCompletion.Proofs.Completion.Spellings
import MarkupCompletion.Schema.Definition
import Mathlib.Data.List.Induction

/-
  The attributes that a definition lists for an element, and their values.

  An element is looked up in an index, which has the place of the first element of each name
  (`lookup_index`), so it is the first of its name that is found (`element?_eq_some_iff`).
  The list of attributes leaves out names that it has; the values are searched for in two
  stages, the attributes of the element before those of every element, and that is one search
  through both (`attribute?_eq_some_iff`). List and search agree on what a name means
  (`attributes_agree_with_values`).
-/

namespace MarkupCompletion.Definition

/-- The index after an element more: an element of a new name has its place there. -/
theorem index_concat (elements : List ElementDefinition) (e : ElementDefinition) :
    index (elements ++ [e]) =
      if ((index elements).lookup (Text.lowerAscii e.name)).isSome then index elements
      else (Text.lowerAscii e.name, elements.length) :: index elements := by
  unfold index
  rw [List.zipIdx_append, List.foldl_append, Nat.zero_add]
  rfl

theorem lookup_index (elements : List ElementDefinition) (k : Text) :
    (index elements).lookup k = elements.findIdx? fun e => Text.lowerAscii e.name == k := by
  induction elements using List.reverseRecOn with
  | nil => rfl
  | append_singleton elements e ih =>
    rw [index_concat, List.findIdx?_append, ← ih, List.findIdx?_singleton]
    cases hold : (index elements).lookup (Text.lowerAscii e.name) with
    | some i =>
      -- the index has the name of an element before, whose place stays
      rw [Option.isSome_some, if_pos rfl]
      by_cases hk : Text.lowerAscii e.name = k
      · rw [← hk, hold, Option.some_or]
      · rw [beq_false_of_ne hk]
        simp
    | none =>
      -- a new name, which has its place at the end
      rw [Option.isSome_none, if_neg Bool.false_ne_true, List.lookup_cons]
      by_cases hk : Text.lowerAscii e.name = k
      · simp [← hk, hold]
      · rw [beq_false_of_ne hk, beq_false_of_ne (Ne.symm hk)]
        simp

theorem element?_eq_find? (d : Definition) (name : Text) :
    d.element? name = d.elements.find? fun e => Text.sameAscii e.name name := by
  rw [element?, lookup_index, List.find?_eq_bind_findIdx?_getElem?]
  rfl

theorem element?_eq_some_iff {d : Definition} {name : Text} {e : ElementDefinition} :
    d.element? name = some e ↔ IsFirst (·.name) name d.elements e := by
  rw [element?_eq_find?, isFirst_iff_find?]

theorem specificAttributes_of_element? {d : Definition} {name : Text} {e : ElementDefinition}
    (h : d.element? name = some e) : d.specificAttributes name = e.attributes := by
  rw [specificAttributes, h]
  rfl

theorem attribute?_eq_find? (d : Definition) (element key : Text) :
    d.attribute? element key =
      (d.specificAttributes element ++ d.globalAttributes).find?
        fun a => Text.sameAscii a.name key := by
  change Option.orElse _ (fun _ => _) = _
  rw [Option.orElse_eq_or, List.find?_append, specificAttributes]
  cases d.element? element with
  | none => rfl
  | some e => rfl

theorem attribute?_eq_some_iff {d : Definition} {element key : Text} {a : AttributeDefinition} :
    d.attribute? element key = some a ↔
      IsFirst (·.name) key (d.specificAttributes element ++ d.globalAttributes) a := by
  rw [attribute?_eq_find?, isFirst_iff_find?]

/-- What is listed is what its name means, however that is spelled. -/
theorem attribute?_of_listed {d : Definition} {element key : Text} {a : AttributeDefinition}
    (ha : a ∈ d.attributeDefinitions element) (hkey : Text.sameAscii key a.name = true) :
    d.attribute? element key = some a :=
  attribute?_eq_some_iff.2 ((isFirst_of_mem_firstSpellings ha).congr hkey)

theorem attribute?_of_not_listed {d : Definition} {element key : Text}
    (h : ∀ a ∈ d.attributeDefinitions element, Text.sameAscii a.name key = false) :
    d.attribute? element key = none := by
  rw [attribute?_eq_find?, List.find?_eq_none]
  intro a ha hsame
  obtain ⟨b, hb, hba⟩ := exists_mem_firstSpellings (·.name) ha
  rw [Text.sameAscii_congr hsame, h b hb] at hba
  cases hba

/-- **What is listed of an element is what its values are of.** The element of a name is the
first that has it. Of its attributes, its own and then those of every element, the list has
each name once, in the order of the definition. For every spelling of a name in the list
the values are those of the very attribute that is listed, and for any other name there are
none. -/
theorem attributes_agree_with_values (d : Definition) (element : Text) :
    (∀ e, d.element? element = some e ↔ IsFirst (·.name) element d.elements e) ∧
    (∃ own shared, d.attributeDefinitions element = own ++ shared ∧
      own.Sublist (d.specificAttributes element) ∧ shared.Sublist d.globalAttributes) ∧
    d.attributes element =
      (d.attributeDefinitions element).map (fun a => ⟨a.name, .attributeName, a.description⟩) ∧
    (d.attributes element).Pairwise (fun a b => Text.sameAscii a.text b.text = false) ∧
    (∀ a ∈ d.specificAttributes element ++ d.globalAttributes,
      ∃ c ∈ d.attributes element, Text.sameAscii c.text a.name = true) ∧
    (∀ a ∈ d.attributeDefinitions element, ∀ key, Text.sameAscii key a.name = true →
      d.values element key = a.values.map fun v => ⟨v, .attributeValue, a.description⟩) ∧
    (∀ key, (∀ c ∈ d.attributes element, Text.sameAscii c.text key = false) →
      d.values element key = []) := by
  refine ⟨fun e => element?_eq_some_iff, firstSpellings_append _ _, rfl, ?_, ?_, ?_, ?_⟩
  · exact List.pairwise_map.2 firstSpellings_pairwise
  · intro a ha
    obtain ⟨b, hb, hba⟩ := exists_mem_firstSpellings (·.name) ha
    exact ⟨b.candidate, List.mem_map_of_mem hb, hba⟩
  · intro a ha key hkey
    rw [values, attribute?_of_listed ha hkey]
    rfl
  · intro key hkey
    have hnone : d.attribute? element key = none :=
      attribute?_of_not_listed fun a ha => hkey a.candidate (List.mem_map_of_mem ha)
    rw [values, hnone]
    rfl

/-- An attribute of the element hides one of every element, also if it has no values. -/
example :
    let d : Definition :=
      { name := "s"
        globalAttributes :=
          [{ name := "Type", values := ["x"] }, { name := "dir", values := ["ltr"] }]
        elements :=
          [{ name := "Ol"
             attributes := [{ name := "TYPE" }, { name := "type", values := ["a"] }] }] }
    d.attributes "ol" = [⟨"TYPE", .attributeName, []⟩, ⟨"dir", .attributeName, []⟩] ∧
      d.values "OL" "type" = [] ∧ d.values "ul" "type" = [⟨"x", .attributeValue, []⟩] := by
  decide

end MarkupCompletion.Definition
