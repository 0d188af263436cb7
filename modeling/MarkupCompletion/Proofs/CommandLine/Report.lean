import MarkupCompletion.CommandLine.Report
import MarkupCompletion.Proofs.Markup.Stack
import MarkupCompletion.Proofs.Schema.Texts
import MarkupCompletion.Proofs.Session.BeginTags

/-
  Plain reports can be read back.

  A plain report has a line for each candidate, with tabs between its parts. It can be split up
  again if no part holds a tab or a line end (`plainRows_plainReport`). Candidates come from
  three places: from a definition, which answers with texts of its own
  (`Definition.holds_of_mem_answer`), from the doctypes of a registry, and from the document,
  whose open elements have names without blanks. So over the built-in registry, whatever the
  document holds, a report gives back what was proposed (`plain_report_reads_back`).
-/

namespace MarkupCompletion

/-! ## Lines and fields -/

/-- Whether a text can be a field of a line: it holds no tab and no line end. -/
def IsField (t : Text) : Prop := '\t' ∉ t ∧ '\n' ∉ t

instance (t : Text) : Decidable (IsField t) := inferInstanceAs (Decidable (_ ∧ _))

/-- Whether a candidate fits on a line of a plain report. -/
def Candidate.FitsLine (c : Candidate) : Prop := IsField c.text ∧ IsField c.description

instance (c : Candidate) : Decidable c.FitsLine := inferInstanceAs (Decidable (_ ∧ _))

/-- The parts of a candidate, in the order in which they are written. -/
def Candidate.fields (c : Candidate) : List Text := [c.text, c.category.name, c.description]

/-- The fields of each line of a plain report. The empty report has no line. -/
def plainRows (report : Text) : List (List Text) :=
  if report = [] then [] else (report.splitOn '\n').map fun line => line.splitOn '\t'

theorem Text.joinWith_eq_intercalate (separator : Text) (ts : List Text) :
    Text.joinWith separator ts = separator.intercalate ts := by
  fun_induction Text.joinWith separator ts with
  | case1 => rfl
  | case2 t => simp
  | case3 t ts hts ih => rw [ih, List.intercalate_cons_of_ne_nil hts]

theorem Category.name_isField (k : Category) : IsField k.name := by
  cases k <;> decide

namespace Candidate.FitsLine

variable {c : Candidate}

theorem splitOn_line (h : c.FitsLine) : c.line.splitOn '\t' = c.fields := by
  rw [line, List.append_assoc, List.cons_append,
    List.splitOn_append_cons_self_of_not_mem h.1.1,
    List.splitOn_append_cons_self_of_not_mem c.category.name_isField.1,
    List.splitOn_eq_singleton h.2.1]
  rfl

theorem newline_not_mem_line (h : c.FitsLine) : '\n' ∉ c.line := by
  simp [line, h.1.2, h.2.2, c.category.name_isField.2]

end Candidate.FitsLine

/-- A report of candidates that fit on lines can be split up again. -/
theorem plainRows_plainReport {candidates : List Candidate} (h : ∀ c ∈ candidates, c.FitsLine) :
    plainRows (plainReport candidates) = candidates.map Candidate.fields := by
  by_cases hnone : candidates = []
  · rw [hnone]
    rfl
  have hlines : (plainReport candidates).splitOn '\n' = candidates.map Candidate.line := by
    rw [plainReport, Text.joinWith_eq_intercalate]
    apply List.splitOn_intercalate
    · intro line hline
      obtain ⟨c, hc, rfl⟩ := List.mem_map.1 hline
      exact (h c hc).newline_not_mem_line
    · exact mt List.map_eq_nil_iff.1 hnone
  have hne : plainReport candidates ≠ [] := by
    -- the line of a candidate is never empty, but the only one of an empty text is
    intro hempty
    rw [hempty, List.splitOn_nil] at hlines
    obtain ⟨c, -, hline⟩ := List.mem_map.1 (hlines ▸ List.mem_singleton_self [])
    simp [Candidate.line] at hline
  rw [plainRows, if_neg hne, hlines, List.map_map]
  exact List.map_congr_left fun c hc => (h c hc).splitOn_line

/-! ## Where candidates come from -/

theorem Definition.fitsLine_of_mem_answer {d : Definition} (h : ∀ t ∈ d.texts, IsField t)
    (q : Query) : ∀ c ∈ d.answer q, c.FitsLine := by
  intro c hc
  obtain ⟨htext, hdescription⟩ := d.holds_of_mem_answer q c hc
  refine ⟨h _ htext, ?_⟩
  rcases hdescription with hmem | hnil
  · exact h _ hmem
  · rw [hnil]
    decide

theorem CompletionSettings.fitsLine_of_mem_beginTags (x : CompletionSettings)
    (hasDoctype : Bool) : ∀ c ∈ x.beginTags hasDoctype, c.FitsLine := by
  have all : ∀ c ∈ sectionBeginTags ++ [doctypeBeginTag], c.FitsLine := by decide
  intro c hc
  apply all
  rcases List.mem_append.1 hc with hc | hc
  · exact List.mem_append_left _ (List.mem_ite_nil_right.1 hc).2
  · exact List.mem_append_right _ (List.mem_ite_nil_right.1 hc).2

theorem IsElementName.isField {name : Text} (h : IsElementName name) : IsField name := by
  constructor
  · exact fun hmem => absurd (h.2 _ hmem) (by decide)
  · exact fun hmem => absurd (h.2 _ hmem) (by decide)

theorem fitsLine_of_mem_closingCandidates {enclosing : List Text}
    (h : ∀ name ∈ enclosing, IsElementName name) :
    ∀ c ∈ closingCandidates enclosing, c.FitsLine := by
  intro c hc
  obtain ⟨name, hname, rfl⟩ := List.mem_map.1 hc
  have hopen : name ∈ enclosing := unseen_sublist.subset hname
  exact ⟨(h name hopen).isField, show IsField [] by decide⟩

/-- Whether what a registry answers fits on lines: its schemas are definitions whose texts
are fields, and its doctypes are. -/
structure Registry.FitsLines (r : Registry) : Prop where
  answers : ∀ k ∈ r.schemas, ∃ d, k.source = .table d ∧ ∀ t ∈ d.texts, IsField t
  doctypes : ∀ c ∈ r.doctypes, c.FitsLine

theorem Registry.builtin_fitsLines : builtin.FitsLines where
  answers := by
    have hschemas : builtin.schemas = Html.definitions.map Schema.ofDefinition := rfl
    have htexts : ∀ d ∈ Html.definitions, ∀ t ∈ d.texts, IsField t := by decide +kernel
    intro k hk
    rw [hschemas] at hk
    obtain ⟨d, hd, rfl⟩ := List.mem_map.1 hk
    exact ⟨d, rfl, htexts d hd⟩
  doctypes := by decide +kernel

namespace Session

variable {s : Session} {r : Registry}

/-- What a plan asks of a definition whose texts are fields fits on lines. -/
theorem fitsLine_of_planFor {schema : Option Schema}
    (h : ∀ k ∈ schema, ∃ d, k.source = .table d ∧ ∀ t ∈ d.texts, IsField t) (l : Library)
    (query : Query) (keeps : Candidate → Bool) {tags : List Candidate}
    (htags : ∀ c ∈ tags, c.FitsLine) :
    ∃ candidates, (planFor query keeps tags schema).answer l .never = some candidates ∧
      ∀ c ∈ candidates, c.FitsLine := by
  cases schema with
  | none => exact ⟨[], rfl, List.forall_mem_nil _⟩
  | some k =>
    obtain ⟨d, hsource, htexts⟩ := h k rfl
    refine ⟨Plan.listOf keeps tags (.ok (d.answer query)), ?_, ?_⟩
    · rw [planFor, Plan.answer_ask_never, hsource]
      rfl
    · intro c hc
      rcases List.mem_append.1 hc with hc | hc
      · exact Definition.fitsLine_of_mem_answer htexts query c (List.mem_filter.1 hc).1
      · exact htags c hc

/-- Over a registry whose answers fit on lines, all that is proposed at the cursor does. -/
theorem complete_fitsLine (hr : s.registry.FitsLines)
    (hschema : s.schema.1 = s.registry.select s.scan.doctype)
    (hnames : ∀ name ∈ s.scan.enclosing, IsElementName name) :
    ∃ candidates, (s.complete .never).1 = some candidates ∧ ∀ c ∈ candidates, c.FitsLine := by
  have hfound : ∀ k ∈ s.schema.1, ∃ d, k.source = .table d ∧ ∀ t ∈ d.texts, IsField t := by
    intro k hk
    rw [hschema] at hk
    exact hr.answers k (Registry.mem_of_select hk)
  have elements := fitsLine_of_planFor hfound s.library (Query.elements s.scan.parent?)
    (fun _ => true) (s.extras.fitsLine_of_mem_beginTags s.scan.doctype.isSome)
  have inside (element : Text) (query : Query) (keeps : Candidate → Bool) :=
    fitsLine_of_planFor
      (fun k (hk : k ∈ s.schemaFor element) => hfound k (mem_of_schemaFor hk))
      s.library query keeps (List.forall_mem_nil _)
  rw [complete_eq_answer]
  simp only [plan]
  cases s.cursor with
  | text parent => exact elements
  | tagOpen name => exact elements
  | attributeName element key existing => exact inside element _ _
  | attributeValue element key value => exact inside element _ _
  | closingTag name => exact ⟨_, rfl, fitsLine_of_mem_closingCandidates hnames⟩
  | doctype => exact ⟨_, rfl, hr.doctypes⟩
  | comment => exact ⟨[], rfl, List.forall_mem_nil _⟩
  | cdata => exact ⟨[], rfl, List.forall_mem_nil _⟩

/-- **A plain report gives back what was proposed.** Over the built-in registry, with any
settings and after any calls, a document is brought up to date with any text and cursor.
Completion then has a list, and its report in plain format, cut at line ends and each line
at tabs, is the text, the category and the description of each candidate, in order. The empty
report is that of no candidates. -/
theorem plain_report_reads_back (l : Library) (x : Settings) (calls : List Call) (text : Text)
    (cursor : Nat) :
    let s := (((new Registry.builtin l x).run calls).edit text cursor).1
    ∃ candidates, (s.complete .never).1 = some candidates ∧
      plainRows (report .plain s.cursor candidates) =
        candidates.map fun c => [c.text, c.category.name, c.description] := by
  intro s
  have hs : s = (new Registry.builtin l x).run (calls ++ [.edit text cursor]) := by
    rw [run, List.foldl_concat]
    rfl
  obtain ⟨hregistry, -, hscan, hschema⟩ :=
    run_state Registry.builtin l x (calls ++ [.edit text cursor])
  rw [← hs] at hregistry hscan hschema
  have hnames : ∀ name ∈ s.scan.enclosing, IsElementName name := by
    rw [hscan]
    exact fun name hname => ((Scan.Reachable.new.feed _).enclosing name hname).2
  obtain ⟨candidates, hcomplete, hfits⟩ :=
    complete_fitsLine (by rw [hregistry]; exact Registry.builtin_fitsLines)
      (by rw [hregistry]; exact hschema) hnames
  exact ⟨candidates, hcomplete, plainRows_plainReport hfits⟩

end Session

end MarkupCompletion
