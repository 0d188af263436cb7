import MarkupCompletion.Proofs.Schema.Tables
import MarkupCompletion.Proofs.Text.Lowercase

/-
  What is proposed does not depend on the case in which a document writes its names.

  The name of a parent or of an element with attributes is lowered in full before anything is
  asked, and that takes away the case of ASCII letters, also where the form of a sigma hangs on
  a letter beside it. The names in a request for values are asked for as they are, and there a
  definition sees no case of ASCII letters (`Definition.values_of_sameAscii`). A request
  depends on its query no more than its source does (`Library.ask_congr`), so names that are
  equal up to the case of ASCII letters are proposed the same (`proposals_ignore_ascii_case`),
  if it is not for a provider that tells them apart.
-/

namespace MarkupCompletion

variable {a b key key' : Text}

theorem hasNamespace_of_sameAscii (h : Text.sameAscii a b = true) :
    hasNamespace a = hasNamespace b := by
  have lowered (t : Text) : hasNamespace (Text.lowerAscii t) = hasNamespace t := by
    induction t with
    | nil => rfl
    | cons c t ih =>
      have hc := apply_toLower (fun c => ':' == c) (by decide +kernel) c
      show (':' == c.toLower || hasNamespace (Text.lowerAscii t)) = (':' == c || hasNamespace t)
      simp only [ih, hc]
  rw [← lowered a, ← lowered b, Text.sameAscii_iff.1 h]

/-! ## Definitions -/

theorem AttributeDefinition.first?_of_sameAscii (h : Text.sameAscii key key' = true)
    (as : List AttributeDefinition) : first? as key = first? as key' := by
  unfold first?
  congr 1
  funext a
  exact Text.sameAscii_congr h a.name

namespace Definition

theorem element?_of_sameAscii (h : Text.sameAscii a b = true) (d : Definition) :
    d.element? a = d.element? b := by
  simp only [element?, Text.sameAscii_iff.1 h]

/-- A definition sees no case of ASCII letters in a request for values. -/
theorem values_of_sameAscii (h : Text.sameAscii a b = true)
    (hkey : Text.sameAscii key key' = true) (d : Definition) :
    d.values a key = d.values b key' := by
  simp only [values, attribute?, element?_of_sameAscii h d,
    AttributeDefinition.first?_of_sameAscii hkey]

end Definition

/-! ## Requests -/

/-- Whether a source sees no case of ASCII letters in a request for values. No definition does,
whether it is read from a file or not. -/
def Source.IgnoresCase : Source → Prop
  | .table _ | .file .. => True
  | .provider reply => ∀ a b key key', Text.sameAscii a b = true →
      Text.sameAscii key key' = true → reply (.values a key) = reply (.values b key')

namespace Library

variable {q q' : Query}

variable {source : Source} {schema : Option Schema}

theorem answer_congr (h : ∀ d : Definition, d.answer q = d.answer q')
    (hreply : ∀ reply, source = .provider reply → reply q = reply q') (l : Library) :
    l.answer source q = l.answer source q' := by
  cases source with
  | table d => simp only [answer, h d]
  | file slot path => simp only [answer, h]
  | provider reply => simp only [answer, hreply reply rfl]

theorem mustWait_congr (hreply : ∀ reply, source = .provider reply → reply q = reply q')
    (l : Library) : l.mustWait source q = l.mustWait source q' := by
  cases source with
  | table d => rfl
  | file slot path => rfl
  | provider reply => simp only [mustWait, hreply reply rfl]

/-- Queries that every definition and the provider, if it is one, answer alike come to the same,
whatever is asked and whenever the request is cancelled. -/
theorem ask_congr (h : ∀ d : Definition, d.answer q = d.answer q')
    (hreply : ∀ s ∈ schema, ∀ reply, s.source = .provider reply → reply q = reply q')
    (l : Library) (c : Cancellation) (f : Except Failure (List Candidate) → List Candidate) :
    l.ask c schema q f = l.ask c schema q' f := by
  cases schema with
  | none => rfl
  | some s =>
    simp only [ask, request, answer_congr h (hreply s rfl), mustWait_congr (hreply s rfl)]

end Library

/-- **Proposals do not depend on the case of ASCII letters in a document.** Under any two names
of an element that are equal up to the case of ASCII letters, whatever other characters are in
them, and any two such names of an attribute, the same comes of a request for the elements
inside it, for its attributes beside any existing ones, and, unless a provider tells the names
apart, for the values of the attribute: the same list or none, and the same library after it. -/
theorem proposals_ignore_ascii_case (l : Library) (x : CompletionSettings)
    (schema : Option Schema) (hasDoctype : Bool) (existing : Attributes) (c : Cancellation)
    (hname : Text.sameAscii a b = true) (hkey : Text.sameAscii key key' = true) :
    l.proposeElements x schema (some a) hasDoctype c =
      l.proposeElements x schema (some b) hasDoctype c ∧
    l.proposeAttributes schema a existing c = l.proposeAttributes schema b existing c ∧
    ((∀ s ∈ schema, s.source.IgnoresCase) →
      l.proposeValues schema a key c = l.proposeValues schema b key' c) := by
  have hlower : Text.lower a = Text.lower b := Text.lower_eq_of_sameAscii hname
  have hspace : hasNamespace a = hasNamespace b := hasNamespace_of_sameAscii hname
  refine ⟨?_, ?_, ?_⟩
  · simp only [Library.proposeElements, Query.elements, hlower]
  · simp only [Library.proposeAttributes, hlower, hspace]
  · intro hschema
    rw [Library.proposeValues_eq, Library.proposeValues_eq, hspace]
    have hdefinition (d : Definition) : d.answer (.values a key) = d.answer (.values b key') :=
      d.values_of_sameAscii hname hkey
    refine Library.ask_congr hdefinition ?_ l c _
    intro s hs reply hreply
    have hcase := hschema s (Option.mem_filter_iff.1 hs).1
    rw [hreply] at hcase
    exact hcase a b key key' hname hkey

/-- The sigma that ends a name is final after a letter of either case, so both spellings find
the element whose name is written with the final form, and its attribute of either case. -/
theorem proposals_ignore_ascii_case_before_sigma :
    let e : ElementDefinition :=
      { name := "éXς", children := some ["b"], attributes := [{ name := "Y", values := ["1"] }] }
    let schema := some (Schema.ofDefinition { name := "s", elements := [e, { name := "b" }] })
    let l : Library := {}
    Text.sameAscii "éXΣ" "éxΣ" = true ∧ Text.sameAscii "Y" "y" = true ∧
    l.proposeElements {} schema (some "éXΣ") true .never =
      l.proposeElements {} schema (some "éxΣ") true .never ∧
    l.proposeAttributes schema "éXΣ" [] .never = l.proposeAttributes schema "éxΣ" [] .never ∧
    l.proposeValues schema "éXς" "Y" .never = l.proposeValues schema "éxς" "y" .never ∧
    (l.proposeElements {} schema (some "éXΣ") true .never).1 =
      some (⟨"b", .element, []⟩ :: sectionBeginTags) ∧
    (l.proposeValues schema "éXς" "Y" .never).1 = some [⟨"1", .attributeValue, []⟩] := by
  intro e schema l
  have hname : Text.sameAscii "éXΣ" "éxΣ" = true := by decide +kernel
  have hname' : Text.sameAscii "éXς" "éxς" = true := by decide +kernel
  have hkey : Text.sameAscii "Y" "y" = true := by decide +kernel
  obtain ⟨helements, hattributes, -⟩ :=
    proposals_ignore_ascii_case l {} schema true [] .never hname hkey
  obtain ⟨-, -, hvalues⟩ :=
    proposals_ignore_ascii_case l {} schema true [] .never hname' hkey
  refine ⟨hname, hkey, helements, hattributes, hvalues ?_, by decide +kernel, by decide +kernel⟩
  intro s hs
  rw [← Option.some.inj hs]
  trivial

end MarkupCompletion
