import MarkupCompletion.Proofs.Markup.Characters
import MarkupCompletion.Proofs.Markup.Fields
import MarkupCompletion.Proofs.Text.Suffix

/-
  Texts that lead from one place to another.

  `Leads v p t q` says that reading `t` at `p` ends at `q` and does nothing else
  to a scan. What is read piece by piece leads where the pieces lead
  (`Leads.append`), and a piece is read character by character (`Leads.step`,
  `Leads.grow`). Plain text and sections lead back to the text around them
  (`leads_plain`, `leads_section`).
-/

namespace MarkupCompletion

/-- Whether reading a text at the place `p` leads to the place `q` and does nothing
else. -/
def Leads (v : VoidElements) (p : Place) (t : Text) (q : Place) : Prop :=
  ∀ s : Scan, s.place = p →
    s.feed v t = { s with place := q, consumed := s.consumed + Text.size t }

namespace Leads

variable {v : VoidElements} {p q r : Place} {t u : Text} {c : Char}

theorem nil : Leads v p [] p := by
  rintro s rfl
  rfl

theorem append (h : Leads v p t q) (h' : Leads v q u r) : Leads v p (t ++ u) r := by
  intro s hs
  rw [Scan.feed_append, h s hs, h' _ rfl, Text.size_append, ← Nat.add_assoc]

theorem step (h : ∀ s : Scan, s.place = p → s.react v c = s.moveTo q) : Leads v p [c] q := by
  intro s hs
  rw [Scan.feed_cons, Scan.feed_nil, Scan.step, h s hs]
  rfl

theorem stay (h : ∀ s : Scan, s.place = p → s.react v c = s) : Leads v p [c] p := by
  refine step fun s hs => ?_
  rw [h s hs, ← hs]
  rfl

theorem cons (h : Leads v p [c] q) (h' : Leads v q t r) : Leads v p (c :: t) r := h.append h'

theorem all (h : ∀ c ∈ t, Leads v p [c] p) : Leads v p t p := by
  induction t with
  | nil => exact nil
  | cons c t ih =>
    exact (h c List.mem_cons_self).cons (ih fun d hd => h d (List.mem_cons_of_mem c hd))

theorem grow {f : Text → Place} (h : ∀ x, ∀ c ∈ t, Leads v (f x) [c] (f (x ++ [c]))) (x : Text) :
    Leads v (f x) t (f (x ++ t)) := by
  induction t generalizing x with
  | nil =>
    rw [List.append_nil]
    exact nil
  | cons c t ih =>
    have htail := ih (fun y d hd => h y d (List.mem_cons_of_mem c hd)) (x ++ [c])
    rw [List.append_assoc] at htail
    exact (h x c List.mem_cons_self).cons htail

/-- A character with which something begins, and those that are added to it. -/
theorem begin {f : Text → Place} (h : Leads v p [c] (f [c]))
    (h' : ∀ x, ∀ d ∈ t, Leads v (f x) [d] (f (x ++ [d]))) : Leads v p (c :: t) (f (c :: t)) :=
  h.cons (grow h' [c])

end Leads

/-! ## One character, by the place it is read at -/

namespace Scan

variable {v : VoidElements} {s : Scan} {c : Char}

/-- What the reader of the place makes of a character. -/
def readAt (v : VoidElements) (s : Scan) (c : Char) : Scan :=
  match s.place with
  | .text => s
  | .angle => s.readAngle c
  | .opening name as part => s.readOpening v name as c part
  | .closing name ended => s.readClosing v name ended c
  | .declaration keyword => s.readDeclaration keyword c
  | .doctype body quote => s.readDoctype body quote c
  | .skipped kind tail => s.readSection kind tail c

theorem react_lt (h : s.place.shieldsAngle = false) : s.react v '<' = s.moveTo .angle := by
  simp only [react, h]
  rfl

/-- All but a `<` that starts a tag is left to the reader of the place. -/
theorem react_eq_readAt (h : c = '<' → s.place.shieldsAngle = true) :
    s.react v c = s.readAt v c := by
  have hstays : (decide (c = '<') && !s.place.shieldsAngle) = false := by
    by_cases hc : c = '<'
    · rw [h hc, Bool.not_true, Bool.and_false]
    · rw [decide_eq_false hc, Bool.false_and]
  rw [react, hstays]
  rfl

theorem react_of_ne (hc : c ≠ '<') : s.react v c = s.readAt v c :=
  react_eq_readAt fun h => absurd h hc

theorem react_text (hs : s.place = .text) (hc : c ≠ '<') : s.react v c = s := by
  rw [react_of_ne hc, readAt, hs]

theorem react_angle (hs : s.place = .angle) (hc : c ≠ '<') : s.react v c = s.readAngle c := by
  rw [react_of_ne hc, readAt, hs]

theorem react_opening {name : Text} {as : Attributes} {part : TagPart}
    (hs : s.place = .opening name as part) (hc : c ≠ '<') :
    s.react v c = s.readOpening v name as c part := by
  rw [react_of_ne hc, readAt, hs]

/-- A `>` ends an opening tag, other than after a `/` and inside quotes. -/
theorem react_opening_end {name : Text} {as : Attributes} {part : TagPart}
    (hs : s.place = .opening name as part) (hslash : part ≠ .slash)
    (hquote : part.openQuote? = none) : s.react v '>' = s.openElement v name := by
  rw [react_opening hs (by decide)]
  cases part with
  | name | gap | key k | afterKey k | beforeValue k => rfl
  | value k x quote =>
    cases quote with
    | none => rfl
    | some q => cases hquote
  | slash => exact absurd rfl hslash

theorem react_closing {name : Text} {ended : Bool} (hs : s.place = .closing name ended)
    (hc : c ≠ '<') : s.react v c = s.readClosing v name ended c := by
  rw [react_of_ne hc, readAt, hs]

theorem react_closing_end {name : Text} {ended : Bool} (hs : s.place = .closing name ended) :
    s.react v '>' = s.closeElement v name := by
  rw [react_closing hs (by decide)]
  rfl

theorem react_declaration {k : Text} (hs : s.place = .declaration k) (hc : c ≠ '<') :
    s.react v c = s.readDeclaration k c := by
  rw [react_of_ne hc, readAt, hs]

theorem react_doctype {body : Text} {quote : Option Quote} (hs : s.place = .doctype body quote)
    (hc : quote = none → c ≠ '<') : s.react v c = s.readDoctype body quote c := by
  have hshield : c = '<' → s.place.shieldsAngle = true := by
    intro hlt
    rw [hs]
    cases quote with
    | none => exact absurd hlt (hc rfl)
    | some q => rfl
  rw [react_eq_readAt hshield, readAt, hs]

theorem react_section {kind : Section} {tail : Text} (hs : s.place = .skipped kind tail) :
    s.react v c = s.readSection kind tail c := by
  rw [react_eq_readAt fun _ => by rw [hs]; rfl, readAt, hs]

end Scan

variable {v : VoidElements}

theorem leads_lt {p : Place} (h : p.shieldsAngle = false) : Leads v p ['<'] .angle :=
  Leads.step fun s hs => Scan.react_lt (by rw [hs]; exact h)

/-! ## Plain text -/

/-- Whether a character after `<` makes it a part of the text. -/
def loosensAngle (c : Char) : Bool := c != '<' && c != '/' && c != '!' && !startsName c

def IsPlain : Text → Prop
  | [] => True
  | c :: t => (c = '<' → t.head?.any loosensAngle = true) ∧ IsPlain t

instance decidableIsPlain : (t : Text) → Decidable (IsPlain t)
  | [] => inferInstanceAs (Decidable True)
  | _ :: t =>
    have := decidableIsPlain t
    inferInstanceAs (Decidable (_ ∧ _))

theorem leads_plain {t : Text} (h : IsPlain t) : Leads v .text t .text := by
  -- after `<` the next character leads back, so the text is read by one or two characters
  have both : Leads v .text t .text ∧
      (t.head?.any loosensAngle = true → Leads v .angle t .text) := by
    induction t with
    | nil => exact ⟨Leads.nil, fun hhead => Bool.noConfusion hhead⟩
    | cons c t ih =>
      obtain ⟨hangle, hrest⟩ := h
      obtain ⟨htext, hafter⟩ := ih hrest
      refine ⟨?_, ?_⟩
      · by_cases hc : c = '<'
        · subst hc
          exact (leads_lt rfl).cons (hafter (hangle rfl))
        · exact (Leads.stay fun s hs => Scan.react_text hs hc).cons htext
      · intro hhead
        have hc : loosensAngle c = true := hhead
        simp only [loosensAngle, Bool.and_eq_true, bne_iff_ne, Bool.not_eq_true'] at hc
        obtain ⟨⟨⟨hlt, hslash⟩, hbang⟩, hstart⟩ := hc
        refine (Leads.step fun s hs => ?_).cons htext
        rw [Scan.react_angle hs hlt]
        simp only [Scan.readAngle, hslash, hbang, hstart, Bool.false_eq_true, if_false]
  exact both.1

/-! ## Sections -/

/-- Whether a section goes on after a text: its terminator was followed by no `>`. -/
def Section.IsOpen (kind : Section) (t : Text) : Prop :=
  ∀ p, p ++ ['>'] <+: t → ¬ kind.terminator <:+ p

theorem Section.isOpen_iff {kind : Section} {t : Text} :
    kind.IsOpen t ↔ ¬ kind.terminator ++ ['>'] <:+: t := by
  constructor
  · rintro h ⟨a, b, rfl⟩
    refine h (a ++ kind.terminator) ⟨b, ?_⟩ (List.suffix_append _ _)
    simp only [List.append_assoc]
  · rintro h p ⟨b, rfl⟩ ⟨a, rfl⟩
    refine h ⟨a, b, ?_⟩
    simp only [List.append_assoc]

instance (kind : Section) (t : Text) : Decidable (kind.IsOpen t) :=
  decidable_of_iff _ Section.isOpen_iff.symm

theorem Section.IsOpen.of_prefix {kind : Section} {t u : Text} (h : kind.IsOpen u) (ht : t <+: u) :
    kind.IsOpen t := fun p hp => h p (hp.trans ht)

theorem Section.IsOpen.concat {kind : Section} {t : Text} {c : Char} (h : kind.IsOpen t)
    (hc : c ≠ '>') : kind.IsOpen (t ++ [c]) := by
  intro p hp
  rcases List.prefix_concat_iff.1 hp with heq | hpre
  · obtain ⟨-, hlast⟩ := List.append_inj' heq rfl
    cases hlast
    exact absurd rfl hc
  · exact h p hpre

/-- What is kept of a section tells whether its terminator was just read. -/
theorem Section.terminator_suffix_kept {kind : Section} {t : Text} :
    kind.terminator.isSuffixOf (Text.lastBytes (Text.size kind.terminator) t) = true ↔
      kind.terminator <:+ t := by
  rw [List.isSuffixOf_iff_suffix, Text.suffix_lastBytes_iff le_rfl]

/-- Inside a section: as much of its end is kept as may start the terminator. -/
theorem leads_inside {kind : Section} {t : Text} (h : kind.IsOpen t) :
    Leads v (.skipped kind []) t
      (.skipped kind (Text.lastBytes (Text.size kind.terminator) t)) := by
  induction t using List.reverseRecOn with
  | nil => exact Leads.nil
  | append_singleton t c ih =>
    refine (ih (h.of_prefix (List.prefix_append t [c]))).append (Leads.step fun s hs => ?_)
    rw [Scan.react_section hs, Scan.readSection, if_neg, Text.lastBytes_append]
    intro hend
    rw [Bool.and_eq_true, decide_eq_true_eq, Section.terminator_suffix_kept] at hend
    obtain ⟨rfl, hterm⟩ := hend
    exact h t List.prefix_rfl hterm

theorem leads_end {kind : Section} {t : Text} (h : kind.terminator <:+ t) :
    Leads v (.skipped kind (Text.lastBytes (Text.size kind.terminator) t)) ['>'] .text := by
  apply Leads.step
  intro s hs
  rw [Scan.react_section hs, Scan.readSection, if_pos]
  rw [Section.terminator_suffix_kept.2 h]
  rfl

theorem Section.IsOpen.terminated {kind : Section} {t : Text} (h : kind.IsOpen t) :
    kind.IsOpen (t ++ kind.terminator) := by
  cases kind with
  | comment =>
    have := (h.concat (c := '-') (by decide)).concat (c := '-') (by decide)
    rwa [List.append_assoc] at this
  | cdata =>
    have := (h.concat (c := ']') (by decide)).concat (c := ']') (by decide)
    rwa [List.append_assoc] at this

theorem leads_opener (kind : Section) :
    Leads v .text ('<' :: '!' :: kind.opener) (.skipped kind []) := by
  rintro ⟨place, enclosing, doctype, generation, consumed⟩ hs
  cases hs
  cases kind with
  | comment => rfl
  | cdata => rfl

/-- A section as it is written. -/
def Section.written (kind : Section) (body : Text) : Text :=
  '<' :: '!' :: kind.opener ++ body ++ kind.terminator ++ ['>']

theorem leads_section {kind : Section} {body : Text} (h : kind.IsOpen body) :
    Leads v .text (kind.written body) .text := by
  have hinside := leads_inside (v := v) h.terminated
  have hend := leads_end (v := v) (List.suffix_append body kind.terminator)
  have hall := ((leads_opener (v := v) kind).append hinside).append hend
  rw [← List.append_assoc] at hall
  exact hall

end MarkupCompletion
