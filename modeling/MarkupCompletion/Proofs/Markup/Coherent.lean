import MarkupCompletion.Proofs.Markup.Outcome
import MarkupCompletion.Proofs.Markup.Sound

/-
  The fields of a place agree with each other.

  Seen field by field a place could be many things that no reading comes to: a
  closing tag with attributes, a value without a key, a buffer that outlives its
  declaration. `Place.Coherent` rules these out, and it follows from soundness
  (`Place.Sound.coherent`), so it holds of every scan that can be reached
  (`Scan.reachable_coherent`).
-/

namespace MarkupCompletion

/-- How the fields of a tag agree with the kind of the place and with the open
quote. -/
structure Tag.Coherent (kind : Place.Kind) (quote : Option Char) (t : Tag) : Prop where
  closing_iff : t.closing = true ↔ kind = .closing
  /-- an opening tag has a key while it reads one or is still to read its value -/
  key_ne_nil_iff :
    t.closing = false →
      (t.key ≠ [] ↔ kind ∈ [Place.Kind.key, .afterKey, .beforeValue, .value])
  value_ne_nil : t.value ≠ [] → kind = .value
  bare_ne_nil : kind = .value → quote = none → t.value ≠ []
  /-- a closing tag has only its name -/
  closing_bare : t.closing = true → t.attributes = [] ∧ t.key = [] ∧ t.value = []
  value_angle : '<' ∉ t.value
  value_quote : ∀ q, quote = some q → q ∉ t.value
  value_blank : quote = none → ∀ c ∈ t.value, isBlank c = false ∧ c ≠ '>'
  attributes_keys : ∀ a ∈ t.attributes, a.1 ≠ [] ∧ ∀ c ∈ a.1, endsName c = false
  attributes_values : ∀ a ∈ t.attributes, '<' ∉ a.2
  attributes_nodup : (t.attributes.map Prod.fst).Nodup
  key_chars : ∀ c ∈ t.key, endsName c = false
  /-- the name of an opening tag is that of an element -/
  opening_name : t.closing = false → IsElementName t.name
  closing_name : t.closing = true → ∀ c ∈ t.name, c ≠ '<' ∧ c ≠ '>' ∧ isBlank c = false

namespace Place

/-- How the fields of a place agree with each other. -/
structure Coherent (p : Place) : Prop where
  tag_iff : p.tag?.isSome = true ↔ p.inOpeningTag = true ∨ p.kind = .closing
  tag : ∀ t, p.tag? = some t → t.Coherent p.kind p.quote?
  /-- quotes are open only around values and in doctypes -/
  quote_kind : p.quote?.isSome = true → p.kind = .value ∨ p.kind = .doctype
  quote_char : ∀ q, p.quote? = some q → q = '"' ∨ q = '\''
  buffer_kind : p.buffer ≠ [] → p.kind ∈ [Kind.declaration, .doctype, .comment, .cdata]
  buffer_section : p.kind = .comment ∨ p.kind = .cdata → Text.size p.buffer ≤ 2
  buffer_declaration : p.kind = .declaration → IsOpenKeyword p.buffer
  buffer_doctype :
    p.kind = .doctype →
      p.quote? = (Doctype.openQuote? p.buffer).map Quote.char ∧ Doctype.IsOpenBody p.buffer

end Place

/-- How the fields of a scan agree with each other. -/
structure Scan.Coherent (s : Scan) : Prop where
  place : s.place.Coherent
  doctype_iff : s.doctype.isSome = true ↔ 0 < s.generation

/-! ## From soundness to coherence -/

theorem TagPart.Sound.pending {part : TagPart} (h : part.Sound) :
    (∀ c ∈ part.pendingKey, endsName c = false) ∧ '<' ∉ part.pendingValue ∧
      (∀ q, part.openQuote? = some q → q.char ∉ part.pendingValue) ∧
      (part.openQuote? = none → ∀ c ∈ part.pendingValue, isBlank c = false ∧ c ≠ '>') := by
  have hnone : ∀ c ∈ ([] : Text), isBlank c = false ∧ c ≠ '>' := fun c hc =>
    absurd hc List.not_mem_nil
  cases part with
  | name | gap | slash =>
    exact ⟨fun c hc => absurd hc List.not_mem_nil, List.not_mem_nil, fun _ _ => List.not_mem_nil,
      fun _ => hnone⟩
  | key k | afterKey k | beforeValue k =>
    exact ⟨h.2, List.not_mem_nil, fun _ _ => List.not_mem_nil, fun _ => hnone⟩
  | value k x quote =>
    obtain ⟨hk, hx⟩ := h
    refine ⟨hk.2, hx.not_mem, ?_, ?_⟩
    · rintro q rfl hmem
      exact (hx q.char hmem).2 rfl
    · rintro rfl c hc
      exact ⟨(hx.2 c hc).2.2, (hx.2 c hc).2.1⟩

theorem Place.Sound.coherent_opening {name : Text} {as : Attributes} {part : TagPart}
    (h : (Place.opening name as part).Sound) :
    Tag.Coherent part.kind (part.openQuote?.map Quote.char)
      ⟨name, false, as, part.pendingKey, part.pendingValue⟩ := by
  obtain ⟨hname, has, hpart⟩ := h
  obtain ⟨hkey, hangle, hquote, hblank⟩ := hpart.pending
  refine
    { closing_iff := ?_
      key_ne_nil_iff := fun _ => ?_
      value_ne_nil := ?_
      bare_ne_nil := ?_
      closing_bare := fun h => Bool.noConfusion h
      value_angle := hangle
      value_quote := ?_
      value_blank := fun h => hblank (Option.map_eq_none_iff.1 h)
      attributes_keys := fun a ha => (has.2 a ha).1
      attributes_values := fun a ha => (has.2 a ha).2
      attributes_nodup := has.1
      key_chars := hkey
      opening_name := fun _ => hname
      closing_name := fun h => Bool.noConfusion h }
  · cases part <;> simp [TagPart.kind]
  · cases part with
    | name | gap | slash => simp [TagPart.kind, TagPart.pendingKey]
    | key k | afterKey k | beforeValue k => simp [TagPart.kind, TagPart.pendingKey, hpart.1]
    | value k x quote => simp [TagPart.kind, TagPart.pendingKey, hpart.1.1]
  · cases part <;> simp [TagPart.kind, TagPart.pendingValue]
  · intro hkind hnone
    cases part with
    | value k x quote =>
      rw [Option.map_eq_none_iff] at hnone
      cases hnone
      exact hpart.2.1
    | _ => cases hkind
  · intro c hc
    obtain ⟨q, hq, rfl⟩ := Option.map_eq_some_iff.1 hc
    exact hquote q hq

theorem Place.Sound.coherent_closing {name : Text} {ended : Bool}
    (h : (Place.closing name ended).Sound) :
    Tag.Coherent .closing none ⟨name, true, [], [], []⟩ where
  closing_iff := ⟨fun _ => rfl, fun _ => rfl⟩
  key_ne_nil_iff := fun h => Bool.noConfusion h
  value_ne_nil := fun h => absurd rfl h
  bare_ne_nil := fun h => Place.Kind.noConfusion h
  closing_bare := fun _ => ⟨rfl, rfl, rfl⟩
  value_angle := List.not_mem_nil
  value_quote := fun _ _ => List.not_mem_nil
  value_blank := fun _ _ h => absurd h List.not_mem_nil
  attributes_keys := fun _ h => absurd h List.not_mem_nil
  attributes_values := fun _ h => absurd h List.not_mem_nil
  attributes_nodup := List.nodup_nil
  key_chars := fun _ h => absurd h List.not_mem_nil
  opening_name := fun h => Bool.noConfusion h
  closing_name := fun _ => h.1

theorem Section.size_terminator (kind : Section) : Text.size kind.terminator = 2 := by
  cases kind <;> decide

theorem Place.Sound.coherent {p : Place} (h : p.Sound) : p.Coherent := by
  refine
    { tag_iff := ?_
      tag := ?_
      quote_kind := ?_
      quote_char := ?_
      buffer_kind := ?_
      buffer_section := ?_
      buffer_declaration := ?_
      buffer_doctype := ?_ }
  · cases p with
    | skipped kind tail =>
      cases kind <;> simp [Place.tag?, Place.inOpeningTag, Place.kind, Section.kind]
    | _ => simp [Place.tag?, Place.inOpeningTag, Place.kind]
  · intro t ht
    cases p with
    | opening name as part =>
      cases ht
      exact h.coherent_opening
    | closing name ended =>
      cases ht
      exact h.coherent_closing
    | _ => cases ht
  · cases p with
    | opening name as part =>
      cases part <;> simp [Place.quote?, Place.kind, TagPart.kind, TagPart.openQuote?]
    | _ => simp [Place.quote?, Place.kind]
  · intro c hc
    cases p with
    | opening name as part =>
      obtain ⟨q, -, rfl⟩ := Option.map_eq_some_iff.1 hc
      exact q.char_eq
    | doctype body quote =>
      obtain ⟨q, -, rfl⟩ := Option.map_eq_some_iff.1 hc
      exact q.char_eq
    | _ => cases hc
  · cases p with
    | skipped kind tail => cases kind <;> simp [Place.kind, Section.kind]
    | _ => simp [Place.buffer, Place.kind]
  · intro hkind
    cases p with
    | skipped kind tail => exact le_of_le_of_eq h kind.size_terminator
    | opening name as part => exact Nat.zero_le 2
    | _ => rcases hkind with hkind | hkind <;> cases hkind
  · intro hkind
    cases p with
    | declaration keyword => exact h
    | opening name as part => cases part <;> cases hkind
    | skipped kind tail => cases kind <;> cases hkind
    | _ => cases hkind
  · intro hkind
    cases p with
    | doctype body quote => exact ⟨congrArg (Option.map Quote.char) h.1, h.2⟩
    | opening name as part => cases part <;> cases hkind
    | skipped kind tail => cases kind <;> cases hkind
    | _ => cases hkind

/-! ## Reachable scans -/

namespace Scan

theorem Reachable.doctype_iff {v : VoidElements} {s : Scan} (h : Reachable v s) :
    s.doctype.isSome = true ↔ 0 < s.generation := by
  induction h with
  | new => decide
  | @step s c _ ih =>
    rcases (react_outcome v s c).doctype with ⟨hd, hg⟩ | ⟨hd, hg⟩
    · rw [show (s.step v c).doctype = _ from hd, show (s.step v c).generation = _ from hg]
      exact ih
    · rw [show (s.step v c).generation = _ from hg]
      exact ⟨fun _ => Nat.succ_pos _, fun _ => hd⟩
  | finish _ ih => exact ih

/-- The fields of every scan that can be reached agree with each other. -/
theorem reachable_coherent {v : VoidElements} {s : Scan} (h : Reachable v s) : s.Coherent :=
  ⟨h.sound.coherent, h.doctype_iff⟩

theorem reachable_coherent_in_value :
    Reachable .html (feed .html {} "<!DOCTYPE html><br/><p id=1 class='a") ∧
      (feed .html {} "<!DOCTYPE html><br/><p id=1 class='a").place.kind = .value ∧
      (feed .html {} "<!DOCTYPE html><br/><p id=1 class='a").Coherent :=
  ⟨Reachable.new.feed _, by decide +kernel, reachable_coherent (Reachable.new.feed _)⟩

end Scan

end MarkupCompletion
