import MarkupCompletion.Proofs.Schema.Tables
import MarkupCompletion.Session

/-
  What comes of a request, by when it is cancelled.

  Before it waits for anything a request knows what it has to do (`Session.plan`): its list is
  there, or a source is to be asked and a list made of the answer. Every entry point of a
  session carries out its plan (`request_eq_answer`), so what is said of cancelled requests is
  said once, of plans. A request that is cancelled before it is made gets no list, one that is
  never cancelled gets none only if its source never answers it, and one that is cancelled
  later gets none if it has to wait and otherwise the same list. No request touches the document
  (`no_list_means_cancelled`).
-/

namespace MarkupCompletion

/-! ## Plans -/

/-- What a request has to do. -/
inductive Plan where
  /-- give a list that is there -/
  | ready (candidates : List Candidate)
  /-- ask a source, keep some of the candidates in its answer and put begin tags after them -/
  | ask (source : Source) (query : Query) (keeps : Candidate → Bool) (tags : List Candidate)

/-- Whether a source never answers a query. -/
def Source.IsSilent (source : Source) (q : Query) : Prop :=
  match source with
  | .table _ | .file .. => False
  | .provider reply => reply q = .never

/-- Whether a source has not finished with a query: it does not answer at once, or has a file that
is still to be read. -/
def Library.IsUnfinished (l : Library) (source : Source) (q : Query) : Prop :=
  match source with
  | .table _ => False
  | .file slot _ => l.get? slot = none
  | .provider reply => ∀ answer, reply q ≠ .atOnce answer

theorem Library.mustWait_iff (l : Library) (source : Source) (q : Query) :
    l.mustWait source q = true ↔ l.IsUnfinished source q := by
  cases source with
  | table d => simp [mustWait, IsUnfinished]
  | file slot path => simp [mustWait, IsUnfinished]
  | provider reply =>
    simp only [mustWait, IsUnfinished]
    cases reply q <;> simp [Reply.isAtOnce]

theorem Library.exists_answer_iff (l : Library) (source : Source) (q : Query) :
    (∃ reply, (l.answer source q).1 = some reply) ↔ ¬ source.IsSilent q := by
  cases source with
  | table d => exact iff_of_true ⟨_, rfl⟩ id
  | file slot path => exact iff_of_true ⟨_, rfl⟩ id
  | provider reply =>
    simp only [answer, Source.IsSilent]
    cases reply q <;> simp [Reply.answer?]

theorem Library.IsUnfinished.of_isSilent {l : Library} {source : Source} {q : Query}
    (h : source.IsSilent q) : l.IsUnfinished source q := by
  cases source with
  | table d => exact h.elim
  | file slot path => exact h.elim
  | provider reply =>
    intro answer hreply
    rw [Source.IsSilent, hreply] at h
    cases h

theorem CompletionSettings.category_of_mem_beginTags {x : CompletionSettings} {hasDoctype : Bool} :
    ∀ a ∈ x.beginTags hasDoctype, a.category = .literal := by
  intro a ha
  rw [beginTags, List.mem_append] at ha
  rcases ha with ha | ha
  · split at ha
    · revert a
      decide
    · cases ha
  · split at ha
    · rw [List.mem_singleton.1 ha]
      rfl
    · cases ha

namespace Plan

/-- What is asked, of which source. -/
def question? : Plan → Option (Source × Query)
  | .ready _ => none
  | .ask source query _ _ => some (source, query)

/-- The list that is made of the answer of a source. One that fails has no candidates. -/
def listOf (keeps : Candidate → Bool) (tags : List Candidate)
    (reply : Except Failure (List Candidate)) : List Candidate :=
  (reply.toOption.getD []).filter keeps ++ tags

theorem listOf_all (tags : List Candidate) :
    listOf (fun _ => true) tags = fun reply => reply.toOption.getD [] ++ tags := by
  funext reply
  simp [listOf]

theorem listOf_no_tags (keeps : Candidate → Bool) :
    listOf keeps [] = fun reply => (reply.toOption.getD []).filter keeps := by
  funext reply
  simp [listOf]

/-- What comes of a plan. -/
def answer (l : Library) (c : Cancellation) : Plan → Option (List Candidate)
  | .ready candidates => c.answer candidates
  | .ask source query keeps tags => (l.request c source query).1.map (listOf keeps tags)

variable (l : Library) (p : Plan)

theorem answer_before : p.answer l .before = none := by
  cases p <;> simp [answer, Cancellation.answer, Library.request]

theorem answer_ask_never (source : Source) (query : Query) (keeps : Candidate → Bool)
    (tags : List Candidate) :
    (ask source query keeps tags).answer l .never =
      (l.answer source query).1.map (listOf keeps tags) := by
  simp [answer, Library.request]

/-- A plan that is never cancelled comes to a list if the source that it asks ever answers. -/
theorem answer_never_iff :
    (∃ candidates, p.answer l .never = some candidates) ↔
      ∀ source query, p.question? = some (source, query) → ¬ source.IsSilent query := by
  cases p with
  | ready candidates => exact iff_of_true ⟨candidates, rfl⟩ nofun
  | ask source query keeps tags =>
    have hasked : (∀ source' query', question? (.ask source query keeps tags) =
        some (source', query') → ¬ source'.IsSilent query') ↔ ¬ source.IsSilent query := by
      simp [question?]
    rw [hasked, ← Library.exists_answer_iff l, answer_ask_never]
    cases (l.answer source query).1 <;> simp

/-- Cancelled late, a plan comes to nothing if it has to wait and to the same otherwise. -/
theorem answer_late :
    p.answer l .late =
      if p.question?.any (fun asked => l.mustWait asked.1 asked.2) then none
      else p.answer l .never := by
  cases p with
  | ready candidates => rfl
  | ask source query keeps tags =>
    cases hwait : l.mustWait source query <;> simp [answer, question?, Library.request, hwait]

theorem answer_late_eq_none_iff :
    p.answer l .late = none ↔
      ∃ source query, p.question? = some (source, query) ∧ l.IsUnfinished source query := by
  rw [answer_late]
  cases p with
  | ready candidates => simp [question?, answer, Cancellation.answer]
  | ask source query keeps tags =>
    have hasked : (∃ source' query', question? (.ask source query keeps tags) =
        some (source', query') ∧ l.IsUnfinished source' query') ↔ l.IsUnfinished source query := by
      constructor
      · rintro ⟨_, _, ⟨⟩, h⟩
        exact h
      · exact fun h => ⟨_, _, rfl, h⟩
    rw [hasked, ← l.mustWait_iff, question?, Option.any_some]
    cases hwait : l.mustWait source query with
    | true => exact iff_of_true rfl rfl
    | false =>
      have hanswers : ¬ source.IsSilent query := fun h =>
        Bool.false_ne_true (hwait.symm.trans ((l.mustWait_iff source query).2 (.of_isSilent h)))
      obtain ⟨reply, hreply⟩ := (l.exists_answer_iff source query).2 hanswers
      simp [answer_ask_never, hreply]

end Plan

namespace Session

/-! ## Requests -/

/-- What can be asked of a session: at the cursor, or at an entry point of one kind. -/
inductive Request where
  | elements
  | attributes (element : Text) (existing : Attributes)
  | values (element key : Text)
  | doctypes
  | closing
  | complete
  deriving DecidableEq, Repr

/-- What comes of a request, and the session after it. -/
def request (s : Session) (c : Cancellation) : Request → Option (List Candidate) × Session
  | .elements => s.proposeElements c
  | .attributes element existing => s.proposeAttributes element existing c
  | .values element key => s.proposeValues element key c
  | .doctypes => (s.proposeDoctypes c, s)
  | .closing => (s.proposeClosing c, s)
  | .complete => s.complete c

/-- What a request has to do with a schema: nothing is there without one. -/
def planFor (query : Query) (keeps : Candidate → Bool) (tags : List Candidate) :
    Option Schema → Plan
  | none => .ready []
  | some schema => .ask schema.source query keeps tags

/-- The schema for what stands in the tag of an element. Schemas know nothing of names with a
namespace, and outside an opening tag none is asked. -/
def schemaFor (s : Session) (element : Text) : Option Schema :=
  if s.scan.place.inOpeningTag then s.schema.1.filter fun _ => !hasNamespace element else none

def elementsPlan (s : Session) : Plan :=
  planFor (Query.elements s.scan.parent?) (fun _ => true)
    (s.extras.beginTags s.scan.doctype.isSome) s.schema.1

def attributesPlan (s : Session) (element : Text) (existing : Attributes) : Plan :=
  planFor (.attributes (Text.lower element)) (fun a => !existing.has a.text) []
    (s.schemaFor element)

def valuesPlan (s : Session) (element key : Text) : Plan :=
  planFor (.values element key) (fun _ => true) [] (s.schemaFor element)

/-- What a request has to do. -/
def plan (s : Session) : Request → Plan
  | .elements => s.elementsPlan
  | .attributes element existing => s.attributesPlan element existing
  | .values element key => s.valuesPlan element key
  | .doctypes => .ready s.registry.doctypes
  | .closing => .ready (closingCandidates s.scan.enclosing)
  | .complete =>
    match s.cursor with
    | .text _ | .tagOpen _ => s.elementsPlan
    | .attributeName element _ existing => s.attributesPlan element existing
    | .attributeValue element key _ => s.valuesPlan element key
    | .closingTag _ => .ready (closingCandidates s.scan.enclosing)
    | .doctype => .ready s.registry.doctypes
    | .comment | .cdata => .ready []

variable (s : Session) (c : Cancellation)

theorem ask_eq_answer (l : Library) (schema : Option Schema) (query : Query)
    (keeps : Candidate → Bool) (tags : List Candidate) :
    (l.ask c schema query (Plan.listOf keeps tags)).1 =
      (planFor query keeps tags schema).answer l c := by
  cases schema <;> rfl

theorem proposeElements_eq_answer :
    (s.proposeElements c).1 = s.elementsPlan.answer s.library c := by
  rw [elementsPlan, ← ask_eq_answer, Plan.listOf_all, ← Library.proposeElements_eq]
  rfl

theorem proposeAttributes_eq_answer (element : Text) (existing : Attributes) :
    (s.proposeAttributes element existing c).1 =
      (s.attributesPlan element existing).answer s.library c := by
  simp only [proposeAttributes, attributesPlan, schemaFor]
  cases s.scan.place.inOpeningTag with
  | false => rfl
  | true =>
    rw [if_pos rfl, ← ask_eq_answer, Plan.listOf_no_tags, ← Library.proposeAttributes_eq]
    rfl

theorem proposeValues_eq_answer (element key : Text) :
    (s.proposeValues element key c).1 = (s.valuesPlan element key).answer s.library c := by
  simp only [proposeValues, valuesPlan, schemaFor]
  cases s.scan.place.inOpeningTag with
  | false => rfl
  | true =>
    rw [if_pos rfl, ← ask_eq_answer, Plan.listOf_all]
    simp only [List.append_nil]
    rw [← Library.proposeValues_eq]
    rfl

theorem request_eq_answer (q : Request) :
    (s.request c q).1 = (s.plan q).answer s.library c := by
  cases q with
  | elements => exact s.proposeElements_eq_answer c
  | attributes element existing => exact s.proposeAttributes_eq_answer c element existing
  | values element key => exact s.proposeValues_eq_answer c element key
  | doctypes => rfl
  | closing => rfl
  | complete =>
    simp only [request, complete, plan]
    cases s.cursor with
    | text parent => exact s.proposeElements_eq_answer c
    | tagOpen name => exact s.proposeElements_eq_answer c
    | attributeName element key existing => exact s.proposeAttributes_eq_answer c element existing
    | attributeValue element key value => exact s.proposeValues_eq_answer c element key
    | closingTag name => rfl
    | doctype => rfl
    | comment => rfl
    | cdata => rfl

/-- A request changes no more of a session than the library and the schema that is settled. -/
theorem request_changes (q : Request) :
    ∃ library resolver, (s.request c q).2 = { s with library, resolver } := by
  have elements : ∃ library resolver, (s.proposeElements c).2 = { s with library, resolver } :=
    ⟨_, _, rfl⟩
  have attributes (element : Text) (existing : Attributes) : ∃ library resolver,
      (s.proposeAttributes element existing c).2 = { s with library, resolver } := by
    unfold proposeAttributes
    split
    · exact ⟨_, _, rfl⟩
    · exact ⟨_, _, rfl⟩
  have values (element key : Text) : ∃ library resolver,
      (s.proposeValues element key c).2 = { s with library, resolver } := by
    unfold proposeValues
    split
    · exact ⟨_, _, rfl⟩
    · exact ⟨_, _, rfl⟩
  cases q with
  | elements => exact elements
  | attributes element existing => exact attributes element existing
  | values element key => exact values element key
  | doctypes => exact ⟨_, _, rfl⟩
  | closing => exact ⟨_, _, rfl⟩
  | complete =>
    simp only [request, complete]
    cases s.cursor with
    | text parent => exact elements
    | tagOpen name => exact elements
    | attributeName element key existing => exact attributes element existing
    | attributeValue element key value => exact values element key
    | closingTag name => exact ⟨_, _, rfl⟩
    | doctype => exact ⟨_, _, rfl⟩
    | comment => exact ⟨_, _, rfl⟩
    | cdata => exact ⟨_, _, rfl⟩

theorem request_document (q : Request) : (s.request c q).2.document = s.document := by
  obtain ⟨library, resolver, h⟩ := s.request_changes c q
  rw [h]

theorem tags_of_planFor {query query' : Query} {keeps keeps' : Candidate → Bool}
    {tags tags' : List Candidate} {schema : Option Schema} {source : Source}
    (h : planFor query keeps tags schema = .ask source query' keeps' tags') : tags' = tags := by
  cases schema with
  | none => cases h
  | some schema =>
    cases h
    rfl

theorem category_of_mem_tags {s : Session} {q : Request} {source : Source} {query : Query}
    {keeps : Candidate → Bool} {tags : List Candidate}
    (h : s.plan q = .ask source query keeps tags) : ∀ a ∈ tags, a.category = .literal := by
  have elements (h : s.elementsPlan = .ask source query keeps tags) :
      ∀ a ∈ tags, a.category = .literal := by
    rw [tags_of_planFor h]
    exact CompletionSettings.category_of_mem_beginTags
  have inside {query' : Query} {keeps' : Candidate → Bool} {schema : Option Schema}
      (h : planFor query' keeps' [] schema = .ask source query keeps tags) :
      ∀ a ∈ tags, a.category = .literal := by
    rw [tags_of_planFor h]
    exact List.forall_mem_nil _
  cases q with
  | elements => exact elements h
  | attributes element existing => exact inside h
  | values element key => exact inside h
  | doctypes => cases h
  | closing => cases h
  | complete =>
    simp only [plan] at h
    split at h
    · exact elements h
    · exact elements h
    · exact inside h
    · exact inside h
    · cases h
    · cases h
    · cases h
    · cases h

/-- **No list means that the request was cancelled.** Whatever is asked of a session in whatever
state, with any source: cancelled before it is made, a request gets no list. Never cancelled it
gets one, unless it asks what its source never answers, and a source that fails adds nothing to
the begin tags. Cancelled later it gets none if and only if it waits for a source that has not
finished, and otherwise the list that it gets when it is not cancelled. The document, with its
scan, its text and its checkpoints, stays as it is. -/
theorem no_list_means_cancelled (s : Session) (q : Request) :
    (s.request .before q).1 = none ∧
    ((∃ candidates, (s.request .never q).1 = some candidates) ↔
      ∀ source query, (s.plan q).question? = some (source, query) → ¬ source.IsSilent query) ∧
    (∀ source query keeps tags failure, s.plan q = .ask source query keeps tags →
      (s.library.answer source query).1 = some (.error failure) →
        (s.request .never q).1 = some tags ∧ ∀ a ∈ tags, a.category = .literal) ∧
    ((s.request .late q).1 = none ↔
      ∃ source query, (s.plan q).question? = some (source, query) ∧
        s.library.IsUnfinished source query) ∧
    ((s.request .late q).1 ≠ none → (s.request .late q).1 = (s.request .never q).1) ∧
    ∀ c, (s.request c q).2.document = s.document := by
  simp only [request_eq_answer]
  refine ⟨Plan.answer_before _ _, Plan.answer_never_iff _ _, ?_, Plan.answer_late_eq_none_iff _ _,
    ?_, fun c => s.request_document c q⟩
  · intro source query keeps tags failure hplan hfails
    refine ⟨?_, category_of_mem_tags hplan⟩
    rw [hplan, Plan.answer_ask_never, hfails]
    rfl
  · intro hsome
    rw [Plan.answer_late] at hsome ⊢
    split at hsome
    · exact absurd rfl hsome
    · next hready => rw [if_neg hready]

/-- A source that fails, one that never answers, one that answers after a while, and a file that
is still to be read: for an element with a namespace this one is not waited for. -/
theorem no_list_means_cancelled_of_each_source :
    let inside (source : Source) (t : Text) : Session :=
      ((new { schemas := [{ name := "s", source }], fallback := some 0 } {} {}).append t).1
    let slow : Source := .provider fun _ => .later (.ok [⟨"p", .element, []⟩])
    let broken := inside (.broken (.generic "no answer")) "<"
    let stalled := inside .stalled "<"
    let waiting := inside slow "<"
    let file := inside (.file 0 "s.toml") "<p "
    let prefixed := inside (.file 0 "s.toml") "<a:p "
    let tags := sectionBeginTags ++ [doctypeBeginTag]
    (broken.request .before .complete).1 = none ∧
    (broken.library.answer (.broken (.generic "no answer")) .roots).1 =
      some (.error (.generic "no answer")) ∧
    (broken.request .never .complete).1 = some tags ∧
    (stalled.plan .complete).question? = some (.stalled, .roots) ∧
    (stalled.request .late .complete).1 = none ∧
    ¬ (∃ candidates, (stalled.request .never .complete).1 = some candidates) ∧
    (waiting.request .late .complete).1 = none ∧
    (∃ candidates, (waiting.request .never .complete).1 = some candidates) ∧
    (file.request .late .complete).1 = none ∧
    (∃ candidates, (file.request .never .complete).1 = some candidates) ∧
    (prefixed.request .late .complete).1 = (prefixed.request .never .complete).1 ∧
    (prefixed.request .late .complete).1 ≠ none := by
  intro inside slow broken stalled waiting file prefixed tags
  obtain ⟨hbefore, -, hfails, -⟩ := no_list_means_cancelled broken .complete
  obtain ⟨-, hsilent, -, hstalled, -⟩ := no_list_means_cancelled stalled .complete
  obtain ⟨-, hlater, -, hpending, -⟩ := no_list_means_cancelled waiting .complete
  obtain ⟨-, hnever, -, hwaits, -⟩ := no_list_means_cancelled file .complete
  obtain ⟨-, -, -, hprefixed, hsame, -⟩ := no_list_means_cancelled prefixed .complete
  have hbroken : broken.plan .complete =
      .ask (.broken (.generic "no answer")) .roots (fun _ => true) tags := rfl
  have hasked : (stalled.plan .complete).question? = some (.stalled, .roots) := rfl
  have hslow : (waiting.plan .complete).question? = some (slow, .roots) := rfl
  have hfile : (file.plan .complete).question? =
      some (.file 0 "s.toml", .attributes (Text.lower "p")) := by rfl
  have hnone : (prefixed.plan .complete).question? = none := by rfl
  have hlate : (prefixed.request .late .complete).1 ≠ none := by
    rw [Ne, hprefixed, hnone]
    simp
  refine ⟨hbefore, rfl, (hfails _ _ _ _ _ hbroken rfl).1, hasked, ?_, ?_, ?_, ?_, ?_, ?_,
    hsame hlate, hlate⟩
  · exact hstalled.2 ⟨_, _, hasked, nofun⟩
  · exact fun hlist => hsilent.1 hlist _ _ hasked rfl
  · exact hpending.2 ⟨_, _, hslow, nofun⟩
  · refine hlater.2 fun source query hquestion => ?_
    cases hslow.symm.trans hquestion
    exact nofun
  · exact hwaits.2 ⟨_, _, hfile, rfl⟩
  · refine hnever.2 fun source query hquestion => ?_
    cases hfile.symm.trans hquestion
    exact id

end Session

end MarkupCompletion
