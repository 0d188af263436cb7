import MarkupCompletion.Proofs.Markup.Coherent
import MarkupCompletion.Proofs.Session.Accepted
import MarkupCompletion.Proofs.Session.Requests

/-
  What is proposed where an element may begin.

  Whatever sources a registry has, calls leave a session the registry and the settings that it
  was given, the document that read its text in one piece, and the schema for the doctype of
  that text (`run_state`). So where an element may begin the list is the answer of that schema
  for the innermost open element, then the begin tags, and the begin of a doctype is among them
  for as long as reading the text has completed none (`run_proposes_elements`). A definition
  answers each query with candidates of one category (`Definition.category_of_mem_answer`), so
  anywhere else no literal is proposed but by a provider of literals.
-/

namespace MarkupCompletion

/-! ## Categories -/

/-- The category of the candidates that a query asks for. -/
def Query.category : Query → Category
  | .roots | .children _ => .element
  | .attributes _ => .attributeName
  | .values .. => .attributeValue

theorem Query.category_ne_literal (q : Query) : q.category ≠ .literal := by
  cases q <;> exact Category.noConfusion

theorem Definition.category_of_mem_answer {d : Definition} {q : Query} :
    ∀ a ∈ d.answer q, a.category = q.category := by
  have all : ∀ a ∈ d.allElements, a.category = .element := by
    simp [allElements]
  have named (names : List Text) : ∀ a ∈ names.map d.elementCandidate, a.category = .element := by
    simp [elementCandidate]
  cases q with
  | roots =>
    show ∀ a ∈ d.roots, a.category = .element
    unfold roots
    split
    · exact all
    · exact named _
  | children parent =>
    show ∀ a ∈ d.children parent, a.category = .element
    unfold children
    split
    · exact named _
    · exact all
  | attributes element =>
    show ∀ a ∈ d.attributes element, a.category = .attributeName
    simp [attributes, AttributeDefinition.candidate]
  | values element key =>
    show ∀ a ∈ d.values element key, a.category = .attributeValue
    unfold values
    cases d.attribute? element key <;> simp [AttributeDefinition.valueCandidates]

/-- Whether a source answers no query with a literal. No definition does, whether it is read from a
file or not. -/
def Source.HasNoLiterals : Source → Prop
  | .table _ | .file .. => True
  | .provider reply => ∀ q answer, (reply q).answer? = some answer →
      ∀ a ∈ answer.toOption.getD [], a.category ≠ .literal

theorem Source.hasNoLiterals_broken (failure : Failure) : (broken failure).HasNoLiterals := by
  rintro q answer ⟨⟩
  exact List.forall_mem_nil _

theorem Library.not_literal_of_mem_answer {l : Library} {source : Source} {q : Query}
    {reply : Except Failure (List Candidate)} (hsource : source.HasNoLiterals)
    (h : (l.answer source q).1 = some reply) :
    ∀ a ∈ reply.toOption.getD [], a.category ≠ .literal := by
  have hdefinition (d : Definition) : ∀ a ∈ d.answer q, a.category ≠ .literal := by
    intro a ha
    rw [Definition.category_of_mem_answer a ha]
    exact q.category_ne_literal
  cases source with
  | table d =>
    cases h
    exact hdefinition d
  | file slot path =>
    have hreply : reply = (l.fetch slot path).1.map fun d => d.answer q := (Option.some.inj h).symm
    rw [hreply]
    cases (l.fetch slot path).1 with
    | error failure => exact List.forall_mem_nil _
    | ok d => exact hdefinition d
  | provider answers => exact hsource q reply h

/-- Whether an element may begin at a position: in text or in the name of a tag. -/
def Cursor.takesElement : Cursor → Bool
  | .text _ | .tagOpen _ => true
  | .attributeName .. | .attributeValue .. | .closingTag _ | .doctype | .comment | .cdata => false

/-! ## Doctypes that were completed -/

/-- A text leaves a doctype if and only if reading it has completed one. -/
theorem Scan.doctype_isSome_feed (v : VoidElements) (t : Text) :
    (Scan.feed v {} t).doctype.isSome = true ↔ Scan.declared v {} t ≠ 0 := by
  have hcount : (Scan.feed v {} t).generation = Scan.declared v {} t := by
    rw [generation_feed, Nat.zero_add]
  rw [(Reachable.new.feed t).doctype_iff, hcount, Nat.pos_iff_ne_zero]

/-- The begin tags, with the begin of a doctype as long as none of those counted is there. -/
theorem CompletionSettings.beginTags_eq (x : CompletionSettings) {hasDoctype : Bool} {n : Nat}
    (h : hasDoctype = true ↔ n ≠ 0) :
    x.beginTags hasDoctype =
      (if x.miscBeginTags then
        [⟨"!--", .literal, "Comment"⟩, ⟨"![CDATA[", .literal, "Character data"⟩] else []) ++
      (if x.suggestDoctype ∧ n = 0 then [⟨"!DOCTYPE", .literal, "Document type"⟩] else []) := by
  have hnone : (!hasDoctype) = true ↔ n = 0 := by
    rw [Bool.not_eq_true', ← Bool.not_eq_true, h, Classical.not_not]
  simp only [beginTags, Bool.and_eq_true, hnone]
  rfl

namespace Session

/-! ## Calls -/

def Call.edit? : Call → Option Document.Edit
  | .edit text cursor => some (.update text cursor)
  | .append chunk => some (.append chunk)
  | .close => some .reset
  | _ => none

theorem apply_state (s : Session) (call : Call) :
    (s.apply call).registry = s.registry ∧ (s.apply call).extras = s.extras ∧
      (s.apply call).document = (call.edit?.map s.document.apply).getD s.document := by
  have asked (c : Cancellation) (q : Request) : (s.request c q).2.registry = s.registry ∧
      (s.request c q).2.extras = s.extras ∧ (s.request c q).2.document = s.document := by
    obtain ⟨library, resolver, h⟩ := s.request_changes c q
    rw [h]
    exact ⟨rfl, rfl, rfl⟩
  cases call with
  | edit text cursor => exact ⟨rfl, rfl, rfl⟩
  | append chunk => exact ⟨rfl, rfl, rfl⟩
  | close => exact ⟨rfl, rfl, rfl⟩
  | schema => exact ⟨rfl, rfl, rfl⟩
  | elements c => exact asked c .elements
  | attributes element existing c => exact asked c (.attributes element existing)
  | values element key c => exact asked c (.values element key)
  | doctypes c => exact ⟨rfl, rfl, rfl⟩
  | closing c => exact ⟨rfl, rfl, rfl⟩
  | complete c => exact asked c .complete

theorem run_kept (s : Session) (calls : List Call) :
    (s.run calls).registry = s.registry ∧ (s.run calls).extras = s.extras ∧
      (s.run calls).document = s.document.run (calls.filterMap Call.edit?) := by
  induction calls generalizing s with
  | nil => exact ⟨rfl, rfl, rfl⟩
  | cons call calls ih =>
    obtain ⟨hregistry, hextras, hdocument⟩ := s.apply_state call
    obtain ⟨hregistry', hextras', hdocument'⟩ := ih (s.apply call)
    refine ⟨hregistry'.trans hregistry, hextras'.trans hextras, hdocument'.trans ?_⟩
    rw [hdocument]
    cases hedit : call.edit? with
    | none => rw [List.filterMap_cons_none hedit, Option.map_none, Option.getD_none]
    | some e =>
      rw [List.filterMap_cons_some hedit, Document.run_cons, Option.map_some, Option.getD_some]

/-- After any calls a session has the registry and the settings that it was given, the scan of
its text, and the schema that the registry has for the doctype of that text. -/
theorem run_state (r : Registry) (l : Library) (x : Settings) (calls : List Call) :
    let s := (new r l x).run calls
    s.registry = r ∧ s.extras = x.completion ∧
      s.scan = Scan.feed x.parser.voids {} s.document.text ∧
      s.schema.1 = r.select s.scan.doctype := by
  intro s
  obtain ⟨hregistry, hextras, hdocument⟩ := (new r l x).run_kept calls
  refine ⟨hregistry, hextras, ?_, ?_⟩
  · have hfresh : s.document = Document.fresh x.parser.voids x.parser.interval s.document.text := by
      rw [hdocument]
      exact Document.new_run _ _ _
    rw [scan, hfresh]
    exact Document.fresh_scan _
  · have hrun : s = (new r l x).handleAll (calls.map Event.call) := by
      rw [handleAll, List.foldl_map]
      rfl
    rw [hrun]
    apply handleAll_schema
    simp [Event.replaces]

/-! ## Lists -/

variable {s : Session}

theorem complete_eq_answer (s : Session) (c : Cancellation) :
    (s.complete c).1 = (s.plan .complete).answer s.library c := s.request_eq_answer c .complete

theorem complete_elements (h : s.cursor.takesElement = true) :
    (s.complete .never).1 = s.elementsPlan.answer s.library .never := by
  rw [complete_eq_answer]
  simp only [plan]
  cases hcursor : s.cursor with
  | text parent => rfl
  | tagOpen name => rfl
  | _ =>
    rw [hcursor] at h
    cases h

/-- Where an element may begin, begin tags follow what the source of the schema answers. -/
theorem complete_elements_of_schema (h : s.cursor.takesElement = true) {k : Schema}
    (hk : s.schema.1 = some k) (hanswers : ∀ q, ¬ k.source.IsSilent q) :
    ∃ reply, (s.library.answer k.source (Query.elements s.scan.parent?)).1 = some reply ∧
      (s.complete .never).1 =
        some (reply.toOption.getD [] ++ s.extras.beginTags s.scan.doctype.isSome) := by
  obtain ⟨reply, hreply⟩ := (s.library.exists_answer_iff _ _).2 (hanswers _)
  refine ⟨reply, hreply, ?_⟩
  rw [complete_elements h, elementsPlan, hk, planFor, Plan.answer_ask_never, hreply,
    Plan.listOf_all, Option.map_some]

theorem mem_of_schemaFor {element : Text} {k : Schema} (h : k ∈ s.schemaFor element) :
    k ∈ s.schema.1 := by
  unfold schemaFor at h
  split at h
  · exact (Option.mem_filter_iff.1 h).1
  · cases h

theorem answer_without_literals {schema : Option Schema}
    (h : ∀ k ∈ schema, (∀ q, ¬ k.source.IsSilent q) ∧ k.source.HasNoLiterals) (l : Library)
    (query : Query) (keeps : Candidate → Bool) :
    ∃ candidates, (planFor query keeps [] schema).answer l .never = some candidates ∧
      ∀ a ∈ candidates, a.category ≠ .literal := by
  cases schema with
  | none => exact ⟨[], rfl, List.forall_mem_nil _⟩
  | some k =>
    obtain ⟨hanswers, hliterals⟩ := h k rfl
    obtain ⟨reply, hreply⟩ := (l.exists_answer_iff _ query).2 (hanswers query)
    refine ⟨Plan.listOf keeps [] reply, ?_, ?_⟩
    · rw [planFor, Plan.answer_ask_never, hreply, Option.map_some]
    · intro a ha
      rw [Plan.listOf, List.append_nil, List.mem_filter] at ha
      exact Library.not_literal_of_mem_answer hliterals hreply a ha.1

theorem complete_without_literals
    (hs : ∀ k ∈ s.schema.1, (∀ q, ¬ k.source.IsSilent q) ∧ k.source.HasNoLiterals)
    (hcursor : s.cursor.takesElement = false) :
    ∃ candidates, (s.complete .never).1 = some candidates ∧
      ∀ a ∈ candidates, a.category ≠ .literal := by
  have inside (element : Text) : ∀ k ∈ s.schemaFor element,
      (∀ q, ¬ k.source.IsSilent q) ∧ k.source.HasNoLiterals :=
    fun k hk => hs k (mem_of_schemaFor hk)
  rw [complete_eq_answer]
  simp only [plan]
  cases hplace : s.cursor with
  | text parent =>
    rw [hplace] at hcursor
    cases hcursor
  | tagOpen name =>
    rw [hplace] at hcursor
    cases hcursor
  | attributeName element key existing => exact answer_without_literals (inside element) _ _ _
  | attributeValue element key value => exact answer_without_literals (inside element) _ _ _
  | closingTag name => exact ⟨_, rfl, by simp [closingCandidates]⟩
  | doctype =>
    refine ⟨_, rfl, ?_⟩
    intro a ha
    obtain ⟨k, -, hk⟩ := List.mem_filterMap.1 ha
    obtain ⟨declaration, -, rfl⟩ := Option.map_eq_some_iff.1 hk
    exact Category.noConfusion
  | comment => exact ⟨[], rfl, List.forall_mem_nil _⟩
  | cdata => exact ⟨[], rfl, List.forall_mem_nil _⟩

/-- **Where an element may begin, its proposals are those of the schema and then begin tags.** Of
the sources of a registry none keeps silent, but they may fail, and they may be any others. After
any calls, cancelled or not, a completion in text or in the name of a tag gives what the schema of
the document answers for the innermost open element, in lower case, or for the root, and nothing of
a source that fails; then the begin tags of sections if these are asked for, and last the begin of
a doctype if that is asked for and reading the text completes none. Without a schema nothing is
given. Anywhere else no literal is given, unless a provider answers with one. -/
theorem run_proposes_elements (r : Registry) (hr : ∀ k ∈ r.schemas, ∀ q, ¬ k.source.IsSilent q)
    (l : Library) (x : Settings) (calls : List Call) :
    let s := (new r l x).run calls
    let scan := Scan.feed x.parser.voids {} s.document.text
    let undeclared := Scan.declared x.parser.voids {} s.document.text = 0
    s.cursor = scan.cursor ∧
    (s.cursor.takesElement = true → r.select scan.doctype = none →
      (s.complete .never).1 = some []) ∧
    (s.cursor.takesElement = true → ∀ schema, r.select scan.doctype = some schema →
      ∃ reply, (s.library.answer schema.source
          (match scan.enclosing with
            | [] => .roots
            | parent :: _ => .children (Text.lower parent))).1 = some reply ∧
        (s.complete .never).1 = some
          ((match reply with
            | .ok candidates => candidates
            | .error _ => []) ++
          (if x.completion.miscBeginTags then
            [⟨"!--", .literal, "Comment"⟩, ⟨"![CDATA[", .literal, "Character data"⟩] else []) ++
          (if x.completion.suggestDoctype ∧ undeclared then
            [⟨"!DOCTYPE", .literal, "Document type"⟩] else []))) ∧
    ((∀ k ∈ r.schemas, k.source.HasNoLiterals) → s.cursor.takesElement = false →
      ∃ candidates, (s.complete .never).1 = some candidates ∧
        ∀ a ∈ candidates, a.category ≠ .literal) := by
  intro s scan undeclared
  obtain ⟨-, hextras, hscan, hschema⟩ : s.registry = r ∧ s.extras = x.completion ∧
      s.scan = scan ∧ s.schema.1 = r.select s.scan.doctype := run_state r l x calls
  clear_value s
  rw [hscan] at hschema
  have hregistered : ∀ k ∈ s.schema.1, k ∈ r.schemas := by
    intro k hk
    rw [hschema] at hk
    exact Registry.mem_of_select hk
  refine ⟨congrArg Scan.cursor hscan, ?_, ?_, fun hliterals => complete_without_literals fun k hk =>
    ⟨hr k (hregistered k hk), hliterals k (hregistered k hk)⟩⟩
  · intro hcursor hnone
    rw [complete_elements hcursor, elementsPlan, hschema, hnone]
    rfl
  · intro hcursor schema hsome
    have hfound : s.schema.1 = some schema := hschema.trans hsome
    obtain ⟨reply, hreply, hlist⟩ :=
      complete_elements_of_schema hcursor hfound (hr schema (hregistered schema hfound))
    refine ⟨reply, ?_, ?_⟩
    · rw [← hreply, hscan, Scan.parent?]
      cases scan.enclosing <;> rfl
    · rw [hlist, hscan, hextras,
        CompletionSettings.beginTags_eq x.completion (Scan.doctype_isSome_feed _ _),
        ← List.append_assoc]
      cases reply <;> rfl

/-- A declared doctype calls for a source that fails, and only the begin tags of sections are
left. Once it is deleted the default answers, for the innermost element in lower case. -/
theorem run_proposes_elements_after_deletion :
    let d : Definition :=
      { name := "note", elements := [{ name := "p", children := some ["b"] }, { name := "b" }] }
    let memo : Schema :=
      { name := "memo", publicId := some "m", source := .broken (.generic "no answer") }
    let r := ((Registry.build [.ofDefinition d, memo] (some "note")).toOption).getD {}
    let calls : List Call := [.append "<!DOCTYPE a PUBLIC \"m\"><p>", .complete .never]
    let s := (new r {} {}).run calls
    let s' := (new r {} {}).run (calls ++ [.edit "<P><" 4])
    (∀ k ∈ r.schemas, (∀ q, ¬ k.source.IsSilent q) ∧ k.source.HasNoLiterals) ∧
    s.cursor = .text (some "p") ∧ r.select s.scan.doctype = some memo ∧
    (s.complete .never).1 = some sectionBeginTags ∧
    s'.cursor = .tagOpen [] ∧ r.select s'.scan.doctype = some (.ofDefinition d) ∧
    (s'.complete .never).1 =
      some ([⟨"b", .element, []⟩] ++ sectionBeginTags ++ [doctypeBeginTag]) := by
  intro d memo r calls s s'
  have hr : ∀ k ∈ r.schemas, (∀ q, ¬ k.source.IsSilent q) ∧ k.source.HasNoLiterals := by
    have hschemas : r.schemas = [.ofDefinition d, memo] := rfl
    rw [hschemas, List.forall_mem_cons, List.forall_mem_singleton]
    exact ⟨⟨fun _ => id, trivial⟩, fun _ => nofun, Source.hasNoLiterals_broken _⟩
  have hanswers : ∀ k ∈ r.schemas, ∀ q, ¬ k.source.IsSilent q := fun k hk => (hr k hk).1
  have hcursor : s.cursor = .text (some "p") := by decide +kernel
  have hcursor' : s'.cursor = .tagOpen [] := by decide +kernel
  obtain ⟨-, -, hlist, -⟩ := run_proposes_elements r hanswers {} {} calls
  obtain ⟨-, -, hlist', -⟩ := run_proposes_elements r hanswers {} {} (calls ++ [.edit "<P><" 4])
  have hdoctype : s.scan.doctype = some { root := "a", publicId := some "m" } := by decide +kernel
  have hdoctype' : s'.scan.doctype = none := by decide +kernel
  have hmemo : r.select s.scan.doctype = some memo := by
    rw [hdoctype]
    rfl
  have hnote : r.select s'.scan.doctype = some (.ofDefinition d) := by
    rw [hdoctype']
    rfl
  refine ⟨hr, hcursor, hmemo, ?_, hcursor', hnote, ?_⟩
  · obtain ⟨-, -, hscan, -⟩ := run_state r {} {} calls
    obtain ⟨reply, hreply, hcomplete⟩ := hlist (by decide +kernel) memo (by rw [← hscan, hmemo])
    have hfails : reply = .error (.generic "no answer") := (Option.some.inj hreply).symm
    rw [hcomplete, hfails]
    decide +kernel
  · obtain ⟨-, -, hscan, -⟩ := run_state r {} {} (calls ++ [.edit "<P><" 4])
    obtain ⟨reply, hreply, hcomplete⟩ :=
      hlist' (by decide +kernel) (.ofDefinition d) (by rw [← hscan, hnote])
    have hreplies : reply = .ok (d.answer (.children "p")) := by
      rw [← Option.some.inj hreply]
      decide +kernel
    rw [hcomplete, hreplies]
    decide +kernel

end Session

end MarkupCompletion
