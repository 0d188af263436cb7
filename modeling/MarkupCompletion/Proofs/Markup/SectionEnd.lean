import MarkupCompletion.Proofs.Markup.Leads

/-
  Where a section ends.

  Of a section that is being read only two bytes are kept, and they are cut at a
  character. Still it ends with the first end that is written in it, whatever stands
  before: the place is inside it after every start of a text in which no end is
  written, and right after the first end the scan is the one before the section, but
  for the bytes counted (`section_ends_at_first_ending`). What follows is read as if
  the section were not there, so it may open another one (`comment_opens_again`).
-/

namespace MarkupCompletion

namespace Section

variable {kind : Section} {t : Text}

/-- The end of a section as it is written. -/
def ending (kind : Section) : Text := kind.terminator ++ ['>']

/-- Whether `p` is the shortest start of `t` at whose end a section ends. -/
structure EndsFirst (kind : Section) (t p : Text) : Prop where
  isPrefix : p <+: t
  ending_suffix : kind.ending <:+ p
  shortest : ∀ q, q <+: t → kind.ending <:+ q → p.length ≤ q.length

theorem EndsFirst.isOpen {u : Text} (h : kind.EndsFirst t (u ++ kind.ending)) : kind.IsOpen u := by
  rintro p hp ⟨w, rfl⟩
  have hstart : w ++ kind.terminator ++ ['>'] <+: t :=
    (hp.trans (List.prefix_append u kind.ending)).trans h.isPrefix
  have hend : kind.ending <:+ w ++ kind.terminator ++ ['>'] := ⟨w, by simp [ending]⟩
  have hless := h.shortest _ hstart hend
  have hle := hp.length_le
  simp only [ending, List.length_append, List.length_singleton] at hless hle
  omega

theorem exists_first_ending (h : kind.ending <:+: t) :
    ∃ u rest, t = u ++ kind.ending ++ rest ∧ kind.IsOpen u := by
  -- a text goes on with a section, or has an end in it already, or gets its first one now
  have either : kind.IsOpen t ∨ ∃ u rest, t = u ++ kind.ending ++ rest ∧ kind.IsOpen u := by
    clear h
    induction t using List.reverseRecOn with
    | nil => exact Or.inl fun p hp => by simp at hp
    | append_singleton t c ih =>
      rcases ih with hopen | ⟨u, rest, rfl, hu⟩
      · by_cases hend : c = '>' ∧ kind.terminator <:+ t
        · obtain ⟨rfl, u, rfl⟩ := hend
          refine Or.inr ⟨u, [], ?_, hopen.of_prefix (List.prefix_append u kind.terminator)⟩
          simp [ending]
        · left
          intro p hp hterm
          rcases List.prefix_concat_iff.1 hp with heq | hpre
          · obtain ⟨rfl, hc⟩ := List.append_inj' heq rfl
            cases hc
            exact hend ⟨rfl, hterm⟩
          · exact hopen p hpre hterm
      · exact Or.inr ⟨u, rest ++ [c], by simp, hu⟩
  rcases either with hopen | hfirst
  · exact absurd h (isOpen_iff.1 hopen)
  · exact hfirst

end Section

variable {v : VoidElements}

theorem kind_of_isOpen {kind : Section} {p : Text} (h : kind.IsOpen p) {s : Scan}
    (hs : s.place = .text) :
    (s.feed v ('<' :: '!' :: kind.opener ++ p)).place.kind = kind.kind := by
  rw [((leads_opener kind).append (leads_inside h)) s hs]
  rfl

/-- **A section ends with the first end that is written in it.** From character data,
the place is inside the section after every start of a text if and only if no end of
the section is in the text. After the first end the scan is what it was before the
section, but for the bytes that were read, and the rest is read from there. -/
theorem section_ends_at_first_ending (v : VoidElements) (kind : Section) (t : Text) {s : Scan}
    (hs : s.place = .text) :
    ((∀ p, p <+: t → (s.feed v ('<' :: '!' :: kind.opener ++ p)).place.kind = kind.kind) ↔
      ¬ kind.ending <:+: t) ∧
    ∀ u rest, t = u ++ kind.ending ++ rest → kind.EndsFirst t (u ++ kind.ending) →
      s.feed v (kind.written u) =
        { s with consumed := s.consumed + Text.size (kind.written u) } ∧
      s.feed v ('<' :: '!' :: kind.opener ++ t) =
        Scan.feed v { s with consumed := s.consumed + Text.size (kind.written u) } rest := by
  have hafter (u : Text) (hu : kind.IsOpen u) :
      s.feed v (kind.written u) =
        { s with consumed := s.consumed + Text.size (kind.written u) } := by
    rw [leads_section hu s hs, ← hs]
  have hwritten (u : Text) : '<' :: '!' :: kind.opener ++ (u ++ kind.ending) = kind.written u := by
    simp [Section.written, Section.ending]
  refine ⟨⟨fun hinside hend => ?_, fun hnone p hp => ?_⟩, ?_⟩
  · -- right after the first end the place is not inside
    obtain ⟨u, rest, rfl, hu⟩ := Section.exists_first_ending hend
    have hkind := hinside (u ++ kind.ending) (List.prefix_append _ rest)
    rw [hwritten, hafter u hu, hs] at hkind
    cases kind <;> cases hkind
  · exact kind_of_isOpen (Section.IsOpen.of_prefix (Section.isOpen_iff.2 hnone) hp) hs
  · rintro u rest rfl hfirst
    refine ⟨hafter u hfirst.isOpen, ?_⟩
    rw [← List.append_assoc, hwritten, Scan.feed_append, hafter u hfirst.isOpen]

/-- Hyphens that are not the end, a character of several bytes next to it, and another
end behind it. -/
theorem comment_ends_at_first_ending :
    let s : Scan := { enclosing := ["body"] }
    let t : Text := ">->é--->b-->"
    s.place = .text ∧ Section.EndsFirst .comment t (">->é-" ++ Section.ending .comment) ∧
      s.feed .html ("<!--" ++ t) = Scan.feed .html { s with consumed := 13 } "b-->" := by
  intro s t
  have hshortest : ∀ q ∈ t.inits, Section.ending .comment <:+ q → 8 ≤ q.length := by decide
  have hfirst : Section.EndsFirst .comment t (">->é-" ++ Section.ending .comment) :=
    ⟨by decide, by decide, fun q hq => hshortest q ((List.mem_inits q t).2 hq)⟩
  refine ⟨rfl, hfirst, ?_⟩
  exact ((section_ends_at_first_ending .html .comment t rfl).2 ">->é-" "b-->" rfl hfirst).2

/-- What follows a comment may be a comment: the place is inside one, although an end
is written. -/
theorem comment_opens_again :
    let t : Text := "--><!--"
    ¬ ((Scan.feed .html {} ("<!--" ++ t)).place.kind = .comment ↔ ¬ ("-->" : Text) <:+: t) := by
  decide +kernel

end MarkupCompletion
