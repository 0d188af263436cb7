import MarkupCompletion.Proofs.Markup.Declaration
import MarkupCompletion.Proofs.Schema.Build
import MarkupCompletion.Proofs.Session.Lookup

/-
  Accepting a proposed doctype selects its schema.

  As long as the registry of a session is not replaced, the schema that the session
  answers with is the one that this registry has for the doctype of the document
  (`handleAll_schema`), however often schemas were looked up and let go of before. A
  proposed doctype is the declaration of its schema, and one that was written for a
  doctype declares that doctype, so where its public identifier is the one of the schema
  the schema is in use as soon as it was read (`append_proposed_doctype`).
-/

namespace MarkupCompletion

/-- In a registry that was built, one candidate at most goes by the name of a schema. -/
theorem Registry.Indexed.mem_doctypes_iff {r : Registry} (h : r.Indexed) {s : Schema}
    (hs : s ∈ r.schemas) {declaration : Text} (hd : s.doctype = some declaration)
    {a : Candidate} :
    (a ∈ r.doctypes ∧ a.description = s.name) ↔ a = ⟨declaration, .doctype, s.name⟩ := by
  rw [Registry.doctypes, List.mem_filterMap]
  constructor
  · rintro ⟨⟨s', hs', ha⟩, hname⟩
    obtain ⟨declaration', hd', rfl⟩ := Option.map_eq_some_iff.1 ha
    have hsame : s' = s := h.names.eq_of_key hs' hs (congrArg some hname) rfl
    subst hsame
    rw [hd] at hd'
    cases hd'
    rfl
  · rintro rfl
    exact ⟨⟨s, hs, by rw [hd]; rfl⟩, rfl⟩

namespace Session

/-! ## The registry of a run -/

/-- Whether an event replaces the registry. -/
def Event.replaces : Event → Bool
  | .reload _ => true
  | _ => false

variable {s : Session} {events : List Event}

theorem complete_registry (s : Session) (c : Cancellation) :
    (s.complete c).2.registry = s.registry := by
  simp only [complete, proposeAttributes, proposeValues]
  split
  · rfl
  · rfl
  · split <;> rfl
  · split <;> rfl
  · rfl
  · rfl
  · rfl
  · rfl

theorem handle_registry {e : Event} (h : e.replaces = false) :
    (s.handle e).registry = s.registry := by
  cases e with
  | reload r => cases h
  | finish => rfl
  | call c =>
    cases c with
    | attributes element existing c =>
      simp only [handle, apply, proposeAttributes]
      split <;> rfl
    | values element key c =>
      simp only [handle, apply, proposeValues]
      split <;> rfl
    | complete c => exact s.complete_registry c
    | _ => rfl

/-- Every moment of a run has the registry that the run began with. -/
theorem moments_registry (h : ∀ e ∈ events, e.replaces = false) :
    (s.handleAll events).registry = s.registry ∧
      ∀ m ∈ s.moments events, m.session.registry = s.registry := by
  induction events generalizing s with
  | nil => exact ⟨rfl, fun m hm => absurd hm List.not_mem_nil⟩
  | cons e events ih =>
    have he := handle_registry (s := s) (h e List.mem_cons_self)
    obtain ⟨hend, hmoments⟩ := ih (s := s.handle e) fun e' he' => h e' (List.mem_cons_of_mem e he')
    refine ⟨hend.trans he, fun m hm => ?_⟩
    rcases List.mem_cons.1 hm with rfl | hm
    · rfl
    · exact (hmoments m hm).trans he

theorem Moment.mem_of_firstAsked {ms : List Moment} {m : Moment} (h : firstAsked ms = some m) :
    m ∈ ms :=
  (List.rtakeWhile_suffix _ ms).subset (List.mem_of_find?_eq_some h)

theorem schema_eq (s : Session) :
    s.schema.1 = s.resolver.cached.getD (s.registry.schemaOf s.scan.doctype) := by
  rw [← Registry.select_eq_schemaOf]
  obtain ⟨registry, library, extras, document, ⟨cached⟩⟩ := s
  cases cached <;> rfl

/-- The schema in use is the one that the registry has for the doctype, as long as the
registry is not replaced. -/
theorem handleAll_schema (r : Registry) (l : Library) (x : Settings)
    (h : ∀ e ∈ events, e.replaces = false) :
    let s := (new r l x).handleAll events
    s.schema.1 = r.select s.scan.doctype := by
  intro s
  obtain ⟨hend, hmoments⟩ := moments_registry (s := new r l x) h
  obtain ⟨hcached, hdoctype⟩ := new_handleAll r l x events
  rw [schema_eq, hcached, Registry.select_eq_schemaOf, hend]
  cases hfirst : Moment.firstAsked ((new r l x).moments events) with
  | none => rfl
  | some m =>
    -- what was found then is what the same registry has for the same doctype now
    simp only [Option.map_some, Option.getD_some, Moment.found]
    rw [hmoments m (Moment.mem_of_firstAsked hfirst), hdoctype m hfirst]
    rfl

/-! ## Reading on -/

theorem append_scan (s : Session) (chunk : Text) :
    (s.append chunk).1.scan = s.scan.feed s.document.voids chunk :=
  Scan.feedMarking_fst s.document.interval chunk s.scan s.document.checkpoints

/-- **Accepting a proposed doctype selects its schema.** In a registry that was built, let
a schema have a declaration that was written for a doctype with the public identifier of
the schema, whose root is one bare word without angles and whose identifiers hold no
double quote. After any run of events that does not replace the registry, one candidate
goes by the name of the schema, and it is the declaration. Where it is read among
character data, the doctype is that doctype from then on, one more doctype has been
completed, nothing else of the scan has changed but for the bytes counted, and the schema
is in use, whatever was in use or declared before. -/
theorem append_proposed_doctype {schemas : List Schema} {fallback : Option Text} {r : Registry}
    (hr : Registry.build schemas fallback = .ok r) (l : Library) (x : Settings)
    {sch : Schema} (hsch : sch ∈ r.schemas) {d : Doctype} (hdeclares : sch.doctype = some d.written)
    (hd : d.WellFormed) (hroot : ∀ c ∈ d.root, c ≠ '<' ∧ c ≠ '>') {fpi : Text}
    (hfpi : sch.fpi = some fpi) (hpublic : d.publicId = some fpi) {events : List Event}
    (hevents : ∀ e ∈ events, e.replaces = false)
    (hplace : ((new r l x).handleAll events).scan.place = .text) :
    let s := (new r l x).handleAll events
    let after := (s.append d.written).1
    (∃ candidates, s.proposeDoctypes .never = some candidates ∧
      ∀ a, (a ∈ candidates ∧ a.description = sch.name) ↔ a = ⟨d.written, .doctype, sch.name⟩) ∧
    after.scan =
      { s.scan with
        doctype := some d
        generation := s.scan.generation + 1
        consumed := s.scan.consumed + Text.size d.written } ∧
    after.schema.1 = some sch := by
  intro s after
  have hindexed := (Registry.build_indexed hr).1
  have hscan : after.scan = s.scan.feed s.document.voids d.written := s.append_scan d.written
  rw [feed_written hplace hd hroot] at hscan
  refine ⟨⟨r.doctypes, ?_, fun a => hindexed.mem_doctypes_iff hsch hdeclares⟩, hscan, ?_⟩
  · have hsame : s.registry = r := (moments_registry hevents).1
    rw [proposeDoctypes, hsame]
    rfl
  · -- reading the declaration is one event more
    have hall : ∀ e ∈ events ++ [.call (.append d.written)], e.replaces = false := by
      intro e he
      rcases List.mem_append.1 he with he | he
      · exact hevents e he
      · rw [List.mem_singleton.1 he]
        rfl
    have hschema := handleAll_schema r l x hall
    rw [handleAll_concat] at hschema
    have hselect : after.schema.1 = r.select after.scan.doctype := hschema
    rw [hselect, hscan]
    exact hindexed.select_eq_some hsch hfpi hpublic

/-- The schema that is in use gives way to the one whose declaration is accepted, an angle
in whose system identifier ends nothing. -/
theorem append_proposed_doctype_after_another :
    let other : Schema := .ofDefinition { name := "note", fpi := some "n" }
    let d : Doctype := { root := "memo", publicId := some "m", systemId := some "a>b" }
    let memo : Schema :=
      .ofDefinition { name := "memo", fpi := some "m", doctype := some d.written }
    let r := ((Registry.build [other, memo] (some "note")).toOption).getD {}
    let events : List Event :=
      [.call (.append "<!DOCTYPE a PUBLIC \"n\"><p"), .call (.complete .never), .finish,
        .call (.append "<q>")]
    let s := (new r {} {}).handleAll events
    let after := (s.append d.written).1
    s.resolver.cached = some (some other) ∧
    (∃ candidates, s.proposeDoctypes .never = some candidates ∧
      ∀ a, (a ∈ candidates ∧ a.description = memo.name) ↔ a = ⟨d.written, .doctype, memo.name⟩) ∧
    after.scan =
      { s.scan with
        doctype := some d
        generation := s.scan.generation + 1
        consumed := s.scan.consumed + Text.size d.written } ∧
    after.schema.1 = some memo := by
  intro other d memo r events s after
  have hr : Registry.build [other, memo] (some "note") = .ok r := rfl
  have hmemo : memo ∈ r.schemas := List.mem_of_getElem? (i := 1) rfl
  exact ⟨by with_unfolding_all rfl,
    append_proposed_doctype hr {} {} hmemo rfl (by decide +kernel)
      (by decide +kernel) rfl rfl (by decide +kernel) (by decide +kernel)⟩

end Session

end MarkupCompletion
