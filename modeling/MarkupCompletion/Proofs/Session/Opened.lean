import MarkupCompletion.Session
import MarkupCompletion.Proofs.Document.History
import MarkupCompletion.Proofs.Schema.Tables

/-
  A session answers as if its document had just been opened.

  `Session.opened r l x t` is a new session that read `t` in one piece. A run of
  calls leaves a session in one of two states (`IsOpened.run`): the opened one of
  its text, or that one with its schema settled. Settling asks the registry for
  the doctype of the text, an edit that gives another doctype unsettles, and an
  edit that gives the same doctype would settle on the same schema, so the two
  states cannot be told apart by what is asked next (`schema_settled`,
  `complete_settled`).
-/

namespace MarkupCompletion

namespace Session

/-! ## Settling the schema -/

def settled (s : Session) : Session := s.schema.2

/-- A session whose schema is settled answers for its schema as it did. -/
theorem schema_settled (s : Session) : s.settled.schema = s.schema := by
  obtain ⟨registry, library, extras, document, ⟨cached⟩⟩ := s
  cases cached <;> rfl

theorem settled_settled (s : Session) : s.settled.settled = s.settled := by
  rw [settled, schema_settled]
  rfl

theorem settled_scan (s : Session) : s.settled.scan = s.scan := rfl

theorem proposeElements_settled (s : Session) (c : Cancellation) :
    (s.settled.proposeElements c).1 = (s.proposeElements c).1 := by
  simp only [proposeElements, schema_settled]

theorem proposeAttributes_settled (s : Session) (element : Text) (existing : Attributes)
    (c : Cancellation) :
    (s.settled.proposeAttributes element existing c).1 =
      (s.proposeAttributes element existing c).1 := by
  simp only [proposeAttributes, schema_settled, settled_scan]
  split
  · rfl
  · rfl

theorem proposeValues_settled (s : Session) (element key : Text) (c : Cancellation) :
    (s.settled.proposeValues element key c).1 = (s.proposeValues element key c).1 := by
  simp only [proposeValues, schema_settled, settled_scan]
  split
  · rfl
  · rfl

theorem complete_settled (s : Session) (c : Cancellation) :
    (s.settled.complete c).1 = (s.complete c).1 := by
  have hcursor : s.settled.cursor = s.cursor := rfl
  simp only [complete, hcursor]
  split
  · exact proposeElements_settled s c
  · exact proposeElements_settled s c
  · exact proposeAttributes_settled s _ _ c
  · exact proposeValues_settled s _ _ c
  · rfl
  · rfl
  · rfl
  · rfl

/-! ## The opened session -/

/-- The session that has read a text in one piece and was asked nothing. -/
def opened (r : Registry) (l : Library) (x : Settings) (t : Text) : Session :=
  { new r l x with document := Document.fresh x.parser.voids x.parser.interval t }

variable {r : Registry} {l : Library} {x : Settings}

theorem new_append (t : Text) : ((new r l x).append t).1 = opened r l x t := by
  simp only [append, afterUpdate, opened]
  split <;> rfl

theorem opened_scan (t : Text) :
    (opened r l x t).document.scan = Scan.feed x.parser.voids {} t := Document.fresh_scan t

theorem opened_settled (t : Text) :
    (opened r l x t).settled =
      { opened r l x t with
        resolver := ⟨some (r.select (Scan.feed x.parser.voids {} t).doctype)⟩ } := by
  rw [← opened_scan (r := r) (l := l) t]
  rfl

theorem opened_schema (t : Text) :
    (opened r l x t).schema.1 = r.select (Scan.feed x.parser.voids {} t).doctype := by
  rw [← opened_scan (r := r) (l := l) t]
  rfl

/-- A session that cannot be told from an opened one: its schema may be settled. -/
def IsOpened (r : Registry) (l : Library) (x : Settings) (s : Session) : Prop :=
  ∃ t, s = opened r l x t ∨ s = (opened r l x t).settled

theorem IsOpened.text {s : Session} (h : IsOpened r l x s) :
    s = opened r l x s.document.text ∨ s = (opened r l x s.document.text).settled := by
  obtain ⟨t, rfl | rfl⟩ := h
  · exact Or.inl rfl
  · exact Or.inr rfl

theorem IsOpened.settled {s : Session} (h : IsOpened r l x s) : IsOpened r l x s.settled := by
  obtain ⟨t, rfl | rfl⟩ := h
  · exact ⟨t, Or.inr rfl⟩
  · exact ⟨t, Or.inr (settled_settled _)⟩

theorem IsOpened.document {s : Session} (h : IsOpened r l x s) :
    s.document = Document.fresh x.parser.voids x.parser.interval s.document.text := by
  obtain ⟨t, rfl | rfl⟩ := h
  · rfl
  · rfl

/-! ## Calls -/

/-- After an edit that leaves the document fresh, the session is opened again: if
the doctype is another one the schema is unsettled, and if it is the same the
schema that was settled is the one of the new text. -/
theorem IsOpened.afterUpdate {s : Session} (h : IsOpened r l x s) {t : Text} {u : Update}
    (hu : u.doctypeChanged =
      ((Scan.feed x.parser.voids {} t).doctype != s.document.scan.doctype)) :
    IsOpened r l x
      (s.afterUpdate (Document.fresh x.parser.voids x.parser.interval t, u)).1 := by
  refine ⟨t, ?_⟩
  obtain ⟨t₀, rfl | rfl⟩ := h
  · left
    simp only [Session.afterUpdate, opened]
    split <;> rfl
  · simp only [Session.afterUpdate]
    split
    · left
      rfl
    · next hsame =>
      right
      have hdoc : (Scan.feed x.parser.voids {} t).doctype =
          (Scan.feed x.parser.voids {} t₀).doctype := by
        have hscan : (opened r l x t₀).settled.document.scan = Scan.feed x.parser.voids {} t₀ :=
          Document.fresh_scan t₀
        rw [hu, hscan] at hsame
        simpa using hsame
      rw [opened_settled, opened_settled, hdoc]
      rfl

theorem IsOpened.edit {s : Session} (h : IsOpened r l x s) (text : Text) (cursor : Nat) :
    IsOpened r l x (s.edit text cursor).1 := by
  have hdoc : (s.document.update text cursor).1 =
      Document.fresh x.parser.voids x.parser.interval (Text.upTo text cursor) := by
    rw [h.document]
    exact Document.fresh_update _ text cursor
  have hscan : Scan.feed x.parser.voids {} (Text.upTo text cursor) =
      (s.document.update text cursor).1.scan := by
    rw [hdoc]
    exact (Document.fresh_scan _).symm
  have hup := h.afterUpdate (t := Text.upTo text cursor) (u := (s.document.update text cursor).2)
    (by rw [hscan]; rfl)
  rw [← hdoc] at hup
  exact hup

theorem IsOpened.append {s : Session} (h : IsOpened r l x s) (chunk : Text) :
    IsOpened r l x (s.append chunk).1 := by
  have hdoc : (s.document.append chunk).1 =
      Document.fresh x.parser.voids x.parser.interval (s.document.text ++ chunk) := by
    rw [h.document]
    exact Document.fresh_feed _ chunk
  have hscan : Scan.feed x.parser.voids {} (s.document.text ++ chunk) =
      (s.document.append chunk).1.scan := by
    rw [hdoc]
    exact (Document.fresh_scan _).symm
  have hup := h.afterUpdate (t := s.document.text ++ chunk) (u := (s.document.append chunk).2)
    (by rw [hscan]; rfl)
  rw [← hdoc] at hup
  exact hup

theorem IsOpened.close {s : Session} (h : IsOpened r l x s) : IsOpened r l x s.close := by
  refine ⟨[], Or.inl ?_⟩
  obtain ⟨t, rfl | rfl⟩ := h
  · rfl
  · rfl

/-- The schema that the session answers with is one of the registry for the
doctype of its text. -/
theorem IsOpened.schema_eq {s : Session} (h : IsOpened r l x s) :
    s.schema.1 = r.select (Scan.feed x.parser.voids {} s.document.text).doctype := by
  rcases h.text with heq | heq
  · rw [heq]
    exact opened_schema _
  · rw [heq, schema_settled]
    exact opened_schema _

theorem IsOpened.isTable {s : Session} (h : IsOpened r l x s) (hr : r.TableBacked) :
    IsTable s.schema.1 := by
  rw [h.schema_eq]
  exact hr.select _

/-- A request that leaves the library as it was leaves the session as it was. -/
theorem afterRequest_snd (s : Session) {o : Outcome} (h : o.2 = s.library) :
    (s.afterRequest o).2 = s := by
  simp only [afterRequest, h]

theorem IsOpened.proposeElements {s : Session} (h : IsOpened r l x s) (hr : r.TableBacked)
    (c : Cancellation) : IsOpened r l x (s.proposeElements c).2 := by
  have hsame : (s.proposeElements c).2 = s.settled := by
    simp only [Session.proposeElements]
    apply afterRequest_snd
    rw [Library.proposeElements_eq]
    exact Library.ask_snd (h.isTable hr) _ c _ _
  rw [hsame]
  exact h.settled

theorem IsOpened.proposeAttributes {s : Session} (h : IsOpened r l x s) (hr : r.TableBacked)
    (element : Text) (existing : Attributes) (c : Cancellation) :
    IsOpened r l x (s.proposeAttributes element existing c).2 := by
  simp only [Session.proposeAttributes]
  split
  · exact h
  · rw [afterRequest_snd]
    · exact h.settled
    · rw [Library.proposeAttributes_eq]
      exact Library.ask_snd ((h.isTable hr).filter _) _ c _ _

theorem IsOpened.proposeValues {s : Session} (h : IsOpened r l x s) (hr : r.TableBacked)
    (element key : Text) (c : Cancellation) :
    IsOpened r l x (s.proposeValues element key c).2 := by
  simp only [Session.proposeValues]
  split
  · exact h
  · rw [afterRequest_snd]
    · exact h.settled
    · rw [Library.proposeValues_eq]
      exact Library.ask_snd ((h.isTable hr).filter _) _ c _ _

theorem IsOpened.complete {s : Session} (h : IsOpened r l x s) (hr : r.TableBacked)
    (c : Cancellation) : IsOpened r l x (s.complete c).2 := by
  simp only [Session.complete]
  split
  · exact h.proposeElements hr c
  · exact h.proposeElements hr c
  · exact h.proposeAttributes hr _ _ c
  · exact h.proposeValues hr _ _ c
  · exact h
  · exact h
  · exact h
  · exact h

/-- What is asked of a session, apart from marking the end of its document and
replacing its registry. -/
inductive Call where
  | edit (text : Text) (cursor : Nat)
  | append (chunk : Text)
  | close
  | schema
  | elements (c : Cancellation)
  | attributes (element : Text) (existing : Attributes) (c : Cancellation)
  | values (element key : Text) (c : Cancellation)
  | doctypes (c : Cancellation)
  | closing (c : Cancellation)
  | complete (c : Cancellation)
  deriving DecidableEq, Repr

def apply (s : Session) : Call → Session
  | .edit text cursor => (s.edit text cursor).1
  | .append chunk => (s.append chunk).1
  | .close => s.close
  | .schema => s.schema.2
  | .elements c => (s.proposeElements c).2
  | .attributes element existing c => (s.proposeAttributes element existing c).2
  | .values element key c => (s.proposeValues element key c).2
  | .doctypes _ => s
  | .closing _ => s
  | .complete c => (s.complete c).2

/-- The session after a run of calls. -/
def run (s : Session) (calls : List Call) : Session := calls.foldl apply s

/-- A call keeps a session one that cannot be told from an opened one. -/
theorem IsOpened.apply {s : Session} (h : IsOpened r l x s) (hr : r.TableBacked) (call : Call) :
    IsOpened r l x (s.apply call) := by
  cases call with
  | edit text cursor => exact h.edit text cursor
  | append chunk => exact h.append chunk
  | close => exact h.close
  | schema => exact h.settled
  | elements c => exact h.proposeElements hr c
  | attributes element existing c => exact h.proposeAttributes hr element existing c
  | values element key c => exact h.proposeValues hr element key c
  | doctypes c => exact h
  | closing c => exact h
  | complete c => exact h.complete hr c

theorem IsOpened.run {s : Session} (h : IsOpened r l x s) (hr : r.TableBacked)
    (calls : List Call) : IsOpened r l x (s.run calls) := by
  induction calls generalizing s with
  | nil => exact h
  | cons call calls ih => exact ih (h.apply hr call)

theorem new_isOpened : IsOpened r l x (new r l x) := ⟨[], Or.inl rfl⟩

theorem IsOpened.complete_isSome {s : Session} (h : IsOpened r l x s) (hr : r.TableBacked) :
    (s.complete .never).1.isSome := by
  simp only [Session.complete]
  split
  · simp only [Session.proposeElements, afterRequest, Library.proposeElements_eq]
    exact Library.ask_isSome (h.isTable hr) _ _ _
  · simp only [Session.proposeElements, afterRequest, Library.proposeElements_eq]
    exact Library.ask_isSome (h.isTable hr) _ _ _
  · simp only [Session.proposeAttributes]
    split
    · rfl
    · simp only [afterRequest, Library.proposeAttributes_eq]
      exact Library.ask_isSome ((h.isTable hr).filter _) _ _ _
  · simp only [Session.proposeValues]
    split
    · rfl
    · simp only [afterRequest, Library.proposeValues_eq]
      exact Library.ask_isSome ((h.isTable hr).filter _) _ _ _
  · rfl
  · rfl
  · rfl
  · rfl

/-- **A session answers as if its document had just been opened.** Over a registry
of tables, after any run of calls, cancelled or not, the session settles on the
schema, stands at the position and completes with the list of the new session
that was given its text in one piece. -/
theorem run_answers_as_opened (r : Registry) (l : Library) (x : Settings) (hr : r.TableBacked)
    (calls : List Call) :
    let s := (new r l x).run calls
    let other := ((new r l x).append s.document.text).1
    s.schema.1 = other.schema.1 ∧ s.cursor = other.cursor ∧
    (s.complete .never).1 = (other.complete .never).1 ∧ (s.complete .never).1.isSome := by
  intro s other
  have hs : IsOpened r l x s := new_isOpened.run hr calls
  have hother : other = opened r l x s.document.text := new_append s.document.text
  have hsome := hs.complete_isSome hr
  rcases hs.text with heq | heq
  · rw [← hother] at heq
    rw [heq] at hsome ⊢
    exact ⟨rfl, rfl, rfl, hsome⟩
  · rw [← hother] at heq
    rw [heq] at hsome ⊢
    exact ⟨by rw [schema_settled], rfl, complete_settled other .never, hsome⟩

/-- Of two tables, one by its public identifier and the other by default: the
first is settled, then the doctype that called for it is deleted. -/
theorem run_answers_as_opened_of_tables :
    let r : Registry :=
      { schemas := [.ofDefinition { name := "note" },
          .ofDefinition { name := "memo", fpi := some "m" }]
        byFpi := [("m", 1)]
        fallback := some 0 }
    let calls : List Call :=
      [.append "<!DOCTYPE a PUBLIC \"m\"><", .complete .before, .edit "<é" 2, .schema]
    let s := (new r {} {}).run calls
    let other := ((new r {} {}).append s.document.text).1
    r.TableBacked ∧ s.schema.1 = other.schema.1 ∧ s.cursor = other.cursor ∧
    (s.complete .never).1 = (other.complete .never).1 ∧ (s.complete .never).1.isSome := by
  intro r calls
  have hr : r.TableBacked := by
    intro s hs
    simp only [r, List.mem_cons, List.not_mem_nil, or_false] at hs
    rcases hs with rfl | rfl
    · exact ⟨_, rfl⟩
    · exact ⟨_, rfl⟩
  exact ⟨hr, run_answers_as_opened r {} {} hr calls⟩

end Session

end MarkupCompletion
