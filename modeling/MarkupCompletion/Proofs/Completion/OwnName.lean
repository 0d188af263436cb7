import MarkupCompletion.Proofs.Schema.Attributes
import MarkupCompletion.Proofs.Schema.Tables
import MarkupCompletion.Proofs.Text.Lowercase

/-
  What is proposed for an element under the name that its definition has.

  Children and attributes are asked for in full lower case, values as they are, and the
  table compares names up to the case of ASCII letters. So the values are always those of the
  element itself, while its children and attributes are found if and only if no capital above
  ASCII is in its name (`element?_lower_iff`, `proposals_under_own_name`).
-/

namespace MarkupCompletion

/-! ## Requests to one definition -/

namespace Library

variable (l : Library) (x : CompletionSettings) (d : Definition) (hasDoctype : Bool)

theorem proposeElements_ofDefinition (parent : Text) :
    (l.proposeElements x (some (.ofDefinition d)) (some parent) hasDoctype .never).1 =
      some (d.children (Text.lower parent) ++ x.beginTags hasDoctype) := by
  rw [proposeElements_eq, ask_table rfl]
  rfl

theorem proposeAttributes_ofDefinition {element : Text} (h : hasNamespace element = false) :
    (l.proposeAttributes (some (.ofDefinition d)) element [] .never).1 =
      some (d.attributes (Text.lower element)) := by
  rw [proposeAttributes_eq, Option.filter_some_pos (by rw [h]; rfl), ask_table rfl]
  -- nothing is on the tag yet
  exact congrArg some (List.filter_eq_self.2 fun _ _ => rfl)

theorem proposeValues_ofDefinition {element : Text} (h : hasNamespace element = false)
    (key : Text) :
    (l.proposeValues (some (.ofDefinition d)) element key .never).1 =
      some (d.values element key) := by
  rw [proposeValues_eq, Option.filter_some_pos (by rw [h]; rfl), ask_table rfl]
  rfl

end Library

/-! ## One element -/

namespace Definition

variable {d : Definition} {e : ElementDefinition} {name : Text}

theorem children_of_element? (h : d.element? name = some e) :
    d.children name = e.children.elim d.allElements (·.map d.elementCandidate) := by
  rw [children, h, Option.bind_some]
  cases e.children with
  | none => rfl
  | some names => rfl

theorem attributes_of_element? (h : d.element? name = some e) :
    d.attributes name =
      (firstSpellings (·.name) (e.attributes ++ d.globalAttributes)).map
        AttributeDefinition.candidate := by
  rw [attributes, attributeDefinitions, specificAttributes_of_element? h]

theorem values_of_element? (h : d.element? name = some e) {key : Text} {a : AttributeDefinition}
    (ha : IsFirst (·.name) key e.attributes a) : d.values name key = a.valueCandidates := by
  have hfirst : d.attribute? name key = some a := by
    rw [attribute?_eq_some_iff, specificAttributes_of_element? h]
    exact ha.append d.globalAttributes
  rw [values, hfirst]
  rfl

/-- The first element of a name is found under the name in full lower case if and only if
the name has no capital above ASCII. -/
theorem element?_lower_iff (he : IsFirst (·.name) e.name d.elements e) :
    d.element? (Text.lower e.name) = some e ↔ ∀ c ∈ e.name, isCapitalAboveAscii c = false := by
  rw [← Text.sameAscii_lower_iff, element?_eq_some_iff]
  constructor
  · intro hfound
    rw [Text.sameAscii_comm]
    exact hfound.same
  · exact he.congr

end Definition

/-- **An element is found under its own name, but for capitals above ASCII.** The values that
are proposed for an attribute of an element, under the names that its definition has, are
those of its first attribute of the name. If no capital above ASCII is in the name of the
element, its children and its attributes are proposed as they are defined; if one is, another
element is looked for, and where there is none of that name every element is proposed and no
attribute but those that every element has. -/
theorem proposals_under_own_name (d : Definition) (e : ElementDefinition)
    (he : IsFirst (·.name) e.name d.elements e) (l : Library) (x : CompletionSettings)
    (hasDoctype : Bool) :
    let schema := some (Schema.ofDefinition d)
    let elements := (l.proposeElements x schema (some e.name) hasDoctype .never).1
    let attributes := (l.proposeAttributes schema e.name [] .never).1
    let shown := List.map AttributeDefinition.candidate ∘ firstSpellings (·.name)
    (hasNamespace e.name = false → ∀ a ∈ e.attributes,
      ∃ first, IsFirst (·.name) a.name e.attributes first ∧
        (l.proposeValues schema e.name a.name .never).1 = some first.valueCandidates) ∧
    ((∀ c ∈ e.name, isCapitalAboveAscii c = false) →
      elements = some (e.children.elim d.allElements (·.map d.elementCandidate) ++
        x.beginTags hasDoctype) ∧
      (hasNamespace e.name = false →
        attributes = some (shown (e.attributes ++ d.globalAttributes)))) ∧
    ((∃ c ∈ e.name, isCapitalAboveAscii c = true) →
      d.element? (Text.lower e.name) ≠ some e ∧
      (d.element? (Text.lower e.name) = none →
        elements = some (d.allElements ++ x.beginTags hasDoctype) ∧
        (hasNamespace e.name = false → attributes = some (shown d.globalAttributes)))) := by
  intro schema elements attributes shown
  have helements := Library.proposeElements_ofDefinition l x d hasDoctype e.name
  have hattributes (hname : hasNamespace e.name = false) :=
    Library.proposeAttributes_ofDefinition l d hname
  refine ⟨?_, ?_, ?_⟩
  · intro hname a ha
    obtain ⟨first, hfirst⟩ := exists_isFirst (·.name) ha
    refine ⟨first, hfirst, ?_⟩
    rw [Library.proposeValues_ofDefinition l d hname,
      Definition.values_of_element? (Definition.element?_eq_some_iff.2 he) hfirst]
  · intro hsmall
    have hfound := (Definition.element?_lower_iff he).2 hsmall
    refine ⟨?_, ?_⟩
    · rw [← Definition.children_of_element? hfound]
      exact helements
    · intro hname
      rw [Definition.attributes_of_element? hfound] at hattributes
      exact hattributes hname
  · intro ⟨c, hc, hcapital⟩
    refine ⟨?_, ?_⟩
    · intro hfound
      rw [(Definition.element?_lower_iff he).1 hfound c hc] at hcapital
      cases hcapital
    · intro hnone
      refine ⟨?_, ?_⟩
      · rw [Definition.children, hnone] at helements
        exact helements
      · intro hname
        have hlist := hattributes hname
        rw [Definition.attributes, Definition.attributeDefinitions,
          Definition.specificAttributes, hnone] at hlist
        exact hlist

/-- A name with a small letter above ASCII, beside names that have its capital. Its attributes
are spelled twice, and one of them is a global attribute too. -/
theorem proposals_under_own_name_of_small_letter :
    let e : ElementDefinition :=
      { name := "PRé", children := some ["b"]
        attributes := [{ name := "X" }, { name := "x", values := ["1"] }] }
    let d : Definition :=
      { name := "s", globalAttributes := [{ name := "x" }, { name := "dir" }]
        elements := [{ name := "PRÉ" }, e, { name := "prÉ" }, { name := "pré" }] }
    let schema := some (Schema.ofDefinition d)
    IsFirst (·.name) e.name d.elements e ∧ hasNamespace e.name = false ∧
    (∀ c ∈ e.name, isCapitalAboveAscii c = false) ∧
    (({} : Library).proposeElements {} schema (some e.name) true .never).1 =
      some ([⟨"b", .element, []⟩] ++ sectionBeginTags) ∧
    (({} : Library).proposeAttributes schema e.name [] .never).1 =
      some [⟨"X", .attributeName, []⟩, ⟨"dir", .attributeName, []⟩] ∧
    (∃ first, IsFirst (·.name) "x" e.attributes first ∧
      (({} : Library).proposeValues schema e.name "x" .never).1 = some first.valueCandidates) := by
  intro e d schema
  have hfirst : IsFirst (·.name) e.name d.elements e := by decide +kernel
  have hname : hasNamespace e.name = false := by decide +kernel
  have hsmall : ∀ c ∈ e.name, isCapitalAboveAscii c = false := by decide +kernel
  obtain ⟨hvalues, hown, -⟩ := proposals_under_own_name d e hfirst {} {} true
  obtain ⟨helements, hattributes⟩ := hown hsmall
  refine ⟨hfirst, hname, hsmall, ?_, ?_, ?_⟩
  · exact helements
  · exact (hattributes hname).trans (by decide +kernel)
  · exact hvalues hname { name := "x", values := ["1"] } (by decide +kernel)

/-- Under its own name an element with a capital above ASCII has neither its children nor its
attributes, only the values of these. -/
theorem capital_above_ascii_loses_own_name :
    let e : ElementDefinition :=
      { name := "É", children := some ["b"], attributes := [{ name := "x", values := ["1"] }] }
    let d : Definition := { name := "s", elements := [e, { name := "b" }] }
    let schema := some (Schema.ofDefinition d)
    IsFirst (·.name) e.name d.elements e ∧ hasNamespace e.name = false ∧
    (¬ ∃ tags, (({} : Library).proposeElements {} schema (some e.name) true .never).1 =
      some ([⟨"b", .element, []⟩] ++ tags)) ∧
    (({} : Library).proposeAttributes schema e.name [] .never).1 ≠
      some [⟨"x", .attributeName, []⟩] ∧
    (({} : Library).proposeValues schema e.name "x" .never).1 =
      some [⟨"1", .attributeValue, []⟩] := by
  intro e d schema
  have hlist : (({} : Library).proposeElements {} schema (some e.name) true .never).1 =
      some ([⟨"É", .element, []⟩, ⟨"b", .element, []⟩] ++ sectionBeginTags) := by decide +kernel
  refine ⟨by decide +kernel, by decide +kernel, ?_, by decide +kernel, by decide +kernel⟩
  intro ⟨tags, htags⟩
  rw [hlist] at htags
  have htext := congrArg Candidate.text (List.cons.inj (Option.some.inj htags)).1
  exact absurd htext (by decide)

end MarkupCompletion
