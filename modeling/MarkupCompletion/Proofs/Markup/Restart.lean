import MarkupCompletion.Proofs.Markup.Outcome

/-
  Reading starts over at `<`.

  How a reading goes on does not depend on how much was read (`feed_recount`).
  A `<` that has a meaning where it stands leaves nothing of the construct that
  it interrupts, so after it a scan is told by its open elements, its doctype and
  its count alone. Two readings that agree on these, wherever in a tag or
  declaration each of them stands, agree from the next `<` on (`feed_restarts`).
-/

namespace MarkupCompletion

namespace Place

/-- Whether a `<` starts a tag at the place. -/
def ReadsAngle (p : Place) : Prop :=
  p.kind ≠ .comment ∧ p.kind ≠ .cdata ∧ (p.kind = .doctype → p.quote? = none)

instance (p : Place) : Decidable p.ReadsAngle := inferInstanceAs (Decidable (_ ∧ _ ∧ _))

theorem ReadsAngle.shieldsAngle {p : Place} (h : p.ReadsAngle) : p.shieldsAngle = false := by
  obtain ⟨hcomment, hcdata, hquote⟩ := h
  cases p with
  | skipped kind tail =>
    cases kind with
    | comment => exact absurd rfl hcomment
    | cdata => exact absurd rfl hcdata
  | doctype body quote =>
    cases quote with
    | none => rfl
    | some q => cases hquote rfl
  | _ => rfl

end Place

namespace Scan

variable {v : VoidElements}

/-- The scan with another count of what was read. -/
def recount (s : Scan) (n : Nat) : Scan := { s with consumed := n }

/-! ## The count has no part in what is read -/

section
variable (s : Scan) (n : Nat) (c : Char)

theorem recount_ite (p : Prop) [Decidable p] (a b : Scan) :
    (if p then a else b).recount n = if p then a.recount n else b.recount n :=
  apply_ite (recount · n) p a b

theorem readAngle_recount : (s.recount n).readAngle c = (s.readAngle c).recount n := by
  simp only [readAngle, recount_ite]
  rfl

theorem readGap_recount (name : Text) (as : Attributes) :
    (s.recount n).readGap v name as c = (s.readGap v name as c).recount n := by
  simp only [readGap, recount_ite]
  rfl

theorem readOpening_recount (name : Text) (as : Attributes) (part : TagPart) :
    (s.recount n).readOpening v name as c part = (s.readOpening v name as c part).recount n := by
  cases part with
  | name | key k | afterKey k =>
    simp only [readOpening, recount_ite]
    rfl
  | gap => exact readGap_recount s n c name as
  | beforeValue k =>
    simp only [readOpening, recount_ite]
    cases Quote.ofChar? c with
    | none => rfl
    | some q => rfl
  | value k x quote =>
    cases quote with
    | none | some q =>
      simp only [readOpening, recount_ite]
      rfl
  | slash =>
    simp only [readOpening, recount_ite, readGap_recount]
    rfl

theorem readClosing_recount (name : Text) (ended : Bool) :
    (s.recount n).readClosing v name ended c = (s.readClosing v name ended c).recount n := by
  simp only [readClosing, recount_ite]
  rfl

theorem readDeclaration_recount (keyword : Text) :
    (s.recount n).readDeclaration keyword c = (s.readDeclaration keyword c).recount n := by
  simp only [readDeclaration, recount_ite]
  rfl

theorem readDoctype_recount (body : Text) (quote : Option Quote) :
    (s.recount n).readDoctype body quote c = (s.readDoctype body quote c).recount n := by
  cases quote with
  | some q => rfl
  | none =>
    simp only [readDoctype, recount_ite]
    rfl

theorem readSection_recount (kind : Section) (tail : Text) :
    (s.recount n).readSection kind tail c = (s.readSection kind tail c).recount n := by
  simp only [readSection, recount_ite]
  rfl

theorem react_recount : (s.recount n).react v c = (s.react v c).recount n := by
  have hplace : (s.recount n).place = s.place := rfl
  simp only [react, hplace, recount_ite]
  congr 1
  split
  · rfl
  · exact readAngle_recount s n c
  · exact readOpening_recount s n c _ _ _
  · exact readClosing_recount s n c _ _
  · exact readDeclaration_recount s n c _
  · exact readDoctype_recount s n c _ _
  · exact readSection_recount s n c _ _

theorem step_recount :
    (s.recount n).step v c = (s.step v c).recount (n + c.utf8Size) := by
  rw [step, react_recount]
  rfl

end

/-- A reading that started with another count goes on with another count. -/
theorem feed_recount (s : Scan) (n : Nat) (t : Text) :
    (s.recount n).feed v t = (s.feed v t).recount (n + Text.size t) := by
  induction t generalizing s n with
  | nil => rfl
  | cons c t ih => rw [feed_cons, step_recount, ih, feed_cons, Text.size, Nat.add_assoc]

/-! ## Starting over -/

theorem step_angle {s : Scan} (h : s.place.ReadsAngle) :
    s.step v '<' = { s with place := .angle, consumed := s.consumed + 1 } := by
  have hreact : s.react v '<' = s.moveTo .angle := by
    simp only [react, h.shieldsAngle]
    rfl
  rw [step, hreact]
  rfl

/-- Scans that agree apart from place and count read on alike after a `<`. -/
theorem feed_angle_eq {a b : Scan} (ha : a.place.ReadsAngle) (hb : b.place.ReadsAngle)
    (hstack : a.stack = b.stack) (hdoctype : a.doctype = b.doctype)
    (hgeneration : a.generation = b.generation) (t : Text) :
    a.feed v ('<' :: t) =
      (b.feed v ('<' :: t)).recount (a.consumed + 1 + Text.size t) := by
  have hafter : a.step v '<' = (b.step v '<').recount (a.consumed + 1) := by
    rw [step_angle ha, step_angle hb, recount, List.reverse_inj.1 hstack, hdoctype,
      hgeneration]
  rw [feed_cons, feed_cons, hafter, feed_recount]

/-- **Reading starts over at `<`.** Two scans with the same open elements, the same
doctype and the same generation may stand anywhere in a tag, an attribute, a quoted
value or a declaration: a `<` leaves nothing of it, and from there on any text leads
both to the same place with the same elements, doctype and generation, completes as
many doctypes for the one as for the other, and is counted alike. -/
theorem feed_restarts {a b : Scan} (ha : a.place.ReadsAngle) (hb : b.place.ReadsAngle)
    (hstack : a.stack = b.stack) (hdoctype : a.doctype = b.doctype)
    (hgeneration : a.generation = b.generation) (t : Text) :
    let a' := a.feed v ('<' :: t)
    let b' := b.feed v ('<' :: t)
    (a.step v '<').place = .angle ∧ (b.step v '<').place = .angle ∧
    a'.place = b'.place ∧ a'.stack = b'.stack ∧ a'.doctype = b'.doctype ∧
    a'.generation = b'.generation ∧ a'.consumed + b.consumed = b'.consumed + a.consumed ∧
    a.declared v ('<' :: t) = b.declared v ('<' :: t) := by
  intro a' b'
  have heq : a' = b'.recount (a.consumed + 1 + Text.size t) :=
    feed_angle_eq ha hb hstack hdoctype hgeneration t
  have hcount : b'.consumed = b.consumed + 1 + Text.size t :=
    congrArg consumed (feed_angle_eq (v := v) hb hb rfl rfl rfl t)
  have hafter : a'.generation = b'.generation := by
    rw [heq]
    rfl
  -- the generations before and after tell how many doctypes were completed
  have hdeclared : a.declared v ('<' :: t) = b.declared v ('<' :: t) := by
    rw [generation_feed, generation_feed] at hafter
    omega
  refine ⟨by rw [step_angle ha], by rw [step_angle hb], ?_⟩
  rw [heq]
  refine ⟨rfl, rfl, rfl, rfl, ?_, hdeclared⟩
  simp only [recount]
  omega

/-- From a quoted value of a tag with attributes, and from a doctype declaration. -/
theorem feed_restarts_from_value_and_declaration :
    let a := feed .html {} "<ul><p id=é class='x"
    let b := feed .html {} "<ul><!doctype svg"
    let t : Text := "!DOCTYPE html><li a='<b>"
    a.place.ReadsAngle ∧ b.place.ReadsAngle ∧ a.place ≠ b.place ∧ a.stack = b.stack ∧
      a.doctype = b.doctype ∧ a.generation = b.generation ∧
      (a.feed .html ('<' :: t)).place = (b.feed .html ('<' :: t)).place ∧
      a.declared .html ('<' :: t) = b.declared .html ('<' :: t) := by
  intro a b t
  have ha : a.place.ReadsAngle := by decide +kernel
  have hb : b.place.ReadsAngle := by decide +kernel
  have hstack : a.stack = b.stack := by decide +kernel
  have hdoctype : a.doctype = b.doctype := by decide +kernel
  have hgeneration : a.generation = b.generation := by decide +kernel
  have hplace : a.place ≠ b.place := by decide +kernel
  obtain ⟨-, -, hsame, -, -, -, -, hcount⟩ :=
    feed_restarts (v := .html) ha hb hstack hdoctype hgeneration t
  exact ⟨ha, hb, hplace, hstack, hdoctype, hgeneration, hsame, hcount⟩

end Scan

end MarkupCompletion
