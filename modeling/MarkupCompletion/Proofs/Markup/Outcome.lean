import MarkupCompletion.Proofs.Markup.Fields

/-
  What one character can do to a scan.

  Most characters move the scan to another place and leave everything else as it
  is. Only a `>` does more: it opens the element of a tag, closes elements, or
  completes a doctype (`Scan.react_outcome`). What is said about the elements or
  the doctype of a scan is said about these four.
-/

namespace MarkupCompletion

namespace Scan

/-- What reading a character can come to. -/
inductive Outcome (v : VoidElements) (s : Scan) (c : Char) : Scan → Prop where
  | moved (p : Place) : Outcome v s c (s.moveTo p)
  /-- the end of an opening tag that does not close itself -/
  | opened (name : Text) (as : Attributes) (part : TagPart) :
    c = '>' → s.place = .opening name as part → part ≠ .slash → part.openQuote? = none →
      Outcome v s c (s.openElement v name)
  | closed (name : Text) (ended : Bool) :
    c = '>' → s.place = .closing name ended → Outcome v s c (s.closeElement v name)
  /-- the end of a doctype without a body -/
  | declaredBare (keyword : Text) :
    c = '>' → s.place = .declaration keyword → Text.sameAscii keyword "DOCTYPE" = true →
      Outcome v s c (s.declare [])
  | declared (body : Text) :
    c = '>' → s.place = .doctype body none → Outcome v s c (s.declare body)

variable {v : VoidElements} {s : Scan} {c : Char}

theorem Outcome.same : Outcome v s c s := Outcome.moved s.place

theorem readAngle_outcome : Outcome v s c (s.readAngle c) := by
  simp only [readAngle]
  split
  · exact Outcome.moved _
  · split
    · exact Outcome.moved _
    · split
      · exact Outcome.moved _
      · exact Outcome.moved _

theorem readGap_outcome {name : Text} {as : Attributes} {part : TagPart}
    (hs : s.place = .opening name as part) (hpart : c = '>' → part ≠ .slash)
    (hquote : part.openQuote? = none) : Outcome v s c (s.readGap v name as c) := by
  simp only [readGap]
  split
  · next hgt => exact Outcome.opened name as part hgt hs (hpart hgt) hquote
  · split
    · exact Outcome.moved _
    · split
      · exact Outcome.moved _
      · exact Outcome.moved _

theorem readOpening_outcome {name : Text} {as : Attributes} {part : TagPart}
    (hs : s.place = .opening name as part) : Outcome v s c (s.readOpening v name as c part) := by
  have opened (hgt : c = '>') (hslash : part ≠ .slash) (hquote : part.openQuote? = none) :
      Outcome v s c (s.openElement v name) := Outcome.opened name as part hgt hs hslash hquote
  cases part with
  | name =>
    simp only [readOpening]
    split
    · next hgt => exact opened hgt TagPart.noConfusion rfl
    · split
      · exact Outcome.moved _
      · split
        · exact Outcome.moved _
        · exact Outcome.moved _
  | gap => exact readGap_outcome hs (fun _ => TagPart.noConfusion) rfl
  | key k =>
    simp only [readOpening]
    split
    · exact Outcome.moved _
    · split
      · next hgt => exact opened hgt TagPart.noConfusion rfl
      · split
        · exact Outcome.moved _
        · split
          · exact Outcome.moved _
          · split
            · exact Outcome.same
            · exact Outcome.moved _
  | afterKey k =>
    simp only [readOpening]
    split
    · exact Outcome.moved _
    · split
      · next hgt => exact opened hgt TagPart.noConfusion rfl
      · split
        · exact Outcome.moved _
        · split
          · exact Outcome.same
          · exact Outcome.moved _
  | beforeValue k =>
    simp only [readOpening]
    split
    · next hgt => exact opened hgt TagPart.noConfusion rfl
    · split
      · exact Outcome.same
      · split
        · exact Outcome.moved _
        · exact Outcome.moved _
  | value k x quote =>
    cases quote with
    | some q =>
      simp only [readOpening]
      split
      · exact Outcome.moved _
      · exact Outcome.moved _
    | none =>
      simp only [readOpening]
      split
      · next hgt => exact opened hgt TagPart.noConfusion rfl
      · split
        · exact Outcome.moved _
        · exact Outcome.moved _
  | slash =>
    simp only [readOpening]
    split
    · exact Outcome.moved _
    · next hgt => exact readGap_outcome hs (fun h => absurd h hgt) rfl

theorem readClosing_outcome {name : Text} {ended : Bool} (hs : s.place = .closing name ended) :
    Outcome v s c (s.readClosing v name ended c) := by
  simp only [readClosing]
  split
  · next hgt => exact Outcome.closed name ended hgt hs
  · split
    · exact Outcome.moved _
    · split
      · exact Outcome.same
      · exact Outcome.moved _

theorem readDeclaration_outcome {keyword : Text} (hs : s.place = .declaration keyword) :
    Outcome v s c (s.readDeclaration keyword c) := by
  simp only [readDeclaration]
  split
  · next hgt =>
    split
    · next hdoctype => exact Outcome.declaredBare keyword hgt hs hdoctype
    · exact Outcome.moved _
  · split
    · exact Outcome.moved _
    · split
      · exact Outcome.moved _
      · split
        · exact Outcome.moved _
        · exact Outcome.moved _

theorem readDoctype_outcome {body : Text} {quote : Option Quote}
    (hs : s.place = .doctype body quote) : Outcome v s c (s.readDoctype body quote c) := by
  simp only [readDoctype]
  split
  · exact Outcome.moved _
  · split
    · next hgt => exact Outcome.declared body hgt hs
    · exact Outcome.moved _

theorem readSection_outcome {kind : Section} {tail : Text} :
    Outcome v s c (s.readSection kind tail c) := by
  simp only [readSection]
  split
  · exact Outcome.moved _
  · exact Outcome.moved _

theorem react_outcome (v : VoidElements) (s : Scan) (c : Char) : Outcome v s c (s.react v c) := by
  simp only [react]
  split
  · exact Outcome.moved _
  · split
    · exact Outcome.same
    · exact readAngle_outcome
    · next hs => exact readOpening_outcome hs
    · next hs => exact readClosing_outcome hs
    · next hs => exact readDeclaration_outcome hs
    · next hs => exact readDoctype_outcome hs
    · exact readSection_outcome

theorem Outcome.doctype {s' : Scan} (h : Outcome v s c s') :
    s'.doctype = s.doctype ∧ s'.generation = s.generation ∨
      s'.doctype.isSome = true ∧ s'.generation = s.generation + 1 := by
  cases h with
  | moved p => exact Or.inl ⟨rfl, rfl⟩
  | opened name as part hgt hs hslash hquote => exact Or.inl ⟨rfl, rfl⟩
  | closed name ended hgt hs => exact Or.inl ⟨rfl, rfl⟩
  | declaredBare keyword hgt hs hdoctype => exact Or.inr ⟨rfl, rfl⟩
  | declared body hgt hs => exact Or.inr ⟨rfl, rfl⟩

/-! ## Completed doctypes -/

def declares (s : Scan) (c : Char) : Bool :=
  c == '>' && match s.place with
    | .declaration keyword => Text.sameAscii keyword "DOCTYPE"
    | .doctype _ none => true
    | _ => false

/-- How many doctypes are completed by reading a text. -/
def declared (v : VoidElements) : Scan → Text → Nat
  | _, [] => 0
  | s, c :: t => (if s.declares c then 1 else 0) + declared v (s.step v c) t

theorem react_generation_of_declares (h : s.declares c = true) :
    (s.react v c).generation = s.generation + 1 := by
  simp only [declares, Bool.and_eq_true, beq_iff_eq] at h
  obtain ⟨rfl, hplace⟩ := h
  split at hplace
  · next keyword hs =>
    simp only [react, hs, readDeclaration, hplace]
    rfl
  · next body hs =>
    simp only [react, hs, readDoctype]
    rfl
  · exact Bool.noConfusion hplace

theorem Outcome.generation_of_not_declares {s' : Scan} (h : Outcome v s c s')
    (hno : s.declares c = false) : s'.generation = s.generation := by
  cases h with
  | moved p => rfl
  | opened name as part hgt hs hslash hquote => rfl
  | closed name ended hgt hs => rfl
  | declaredBare keyword hgt hs hdoctype =>
    simp only [declares, hgt, hs, hdoctype] at hno
    exact absurd hno (by decide)
  | declared body hgt hs =>
    simp only [declares, hgt, hs] at hno
    exact absurd hno (by decide)

theorem generation_feed (v : VoidElements) (s : Scan) (t : Text) :
    (s.feed v t).generation = s.generation + s.declared v t := by
  induction t generalizing s with
  | nil => rfl
  | cons c t ih =>
    have hstep : (s.step v c).generation = s.generation + if s.declares c then 1 else 0 := by
      cases hc : s.declares c with
      | true => exact react_generation_of_declares hc
      | false => exact (react_outcome v s c).generation_of_not_declares hc
    rw [feed_cons, ih, hstep, declared, Nat.add_assoc]

theorem declared_append (v : VoidElements) (s : Scan) (a b : Text) :
    s.declared v (a ++ b) = s.declared v a + (s.feed v a).declared v b := by
  induction a generalizing s with
  | nil => simp [declared, feed_nil]
  | cons c a ih => simp only [List.cons_append, declared, feed_cons, ih, Nat.add_assoc]

theorem declared_eq_zero_of_prefix {p t : Text} (h : s.declared v t = 0) (hp : p <+: t) :
    s.declared v p = 0 := by
  obtain ⟨rest, rfl⟩ := hp
  rw [declared_append] at h
  omega

theorem doctype_feed {t : Text} (h : s.declared v t = 0) : (s.feed v t).doctype = s.doctype := by
  induction t generalizing s with
  | nil => rfl
  | cons c t ih =>
    simp only [declared, Nat.add_eq_zero_iff, ite_eq_right_iff, Nat.one_ne_zero, imp_false,
      Bool.not_eq_true] at h
    obtain ⟨hc, ht⟩ := h
    have hgeneration : (s.step v c).generation = s.generation :=
      (react_outcome v s c).generation_of_not_declares hc
    have hdoctype : (s.step v c).doctype = s.doctype := by
      rcases (react_outcome v s c).doctype with hsame | hnew
      · exact hsame.1
      · -- a doctype that was completed would have been counted
        have hmore : (s.step v c).generation = s.generation + 1 := hnew.2
        omega
    rw [feed_cons, ih ht, hdoctype]

end Scan

end MarkupCompletion
