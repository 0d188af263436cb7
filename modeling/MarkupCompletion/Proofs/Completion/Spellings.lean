import MarkupCompletion.Completion.Candidate

/-
  Members told apart by how their names are spelled, the case of ASCII letters apart.

  `firstSpellings` goes through a list with the keys it has seen and keeps a member where
  its key is new. So each key is kept once (`firstSpellings_pairwise`) and none is lost
  (`exists_mem_firstSpellings`), and what is kept before a member is what would be kept of
  the members before it, none of which has its key (`firstSpellings_split`). A search for a
  key thus finds the member that is kept (`isFirst_of_mem_firstSpellings`).
-/

namespace MarkupCompletion

variable {α : Type} {key : α → Text} {name : Text} {seen : List Text} {as before after : List α}
  {a : α}

/-! ## The first member of a name -/

/-- Whether `a` is the first of the members whose key is the name up to ASCII case. -/
def IsFirst (key : α → Text) (name : Text) (as : List α) (a : α) : Prop :=
  ∃ before after, as = before ++ a :: after ∧ Text.sameAscii (key a) name = true ∧
    ∀ b ∈ before, Text.sameAscii (key b) name = false

theorem isFirst_iff_find? :
    IsFirst key name as a ↔ as.find? (fun b => Text.sameAscii (key b) name) = some a := by
  rw [List.find?_eq_some_iff_append]
  constructor
  · intro ⟨before, after, hsplit, hsame, hbefore⟩
    exact ⟨hsame, before, after, hsplit, fun b hb => by rw [hbefore b hb]; rfl⟩
  · intro ⟨hsame, before, after, hsplit, hbefore⟩
    exact ⟨before, after, hsplit, hsame, fun b hb => by simpa using hbefore b hb⟩

instance [DecidableEq α] : Decidable (IsFirst key name as a) :=
  decidable_of_iff _ isFirst_iff_find?.symm

theorem IsFirst.same (h : IsFirst key name as a) : Text.sameAscii (key a) name = true := by
  obtain ⟨before, after, -, hsame, -⟩ := h
  exact hsame

theorem IsFirst.congr {name' : Text} (h : IsFirst key name as a)
    (hname : Text.sameAscii name' name = true) : IsFirst key name' as a := by
  obtain ⟨before, after, hsplit, ha, hbefore⟩ := h
  refine ⟨before, after, hsplit, ?_, ?_⟩
  · rw [Text.sameAscii_congr hname]
    exact ha
  · intro b hb
    rw [Text.sameAscii_congr hname]
    exact hbefore b hb

theorem IsFirst.append (h : IsFirst key name as a) (bs : List α) :
    IsFirst key name (as ++ bs) a := by
  obtain ⟨before, after, rfl, hsame, hbefore⟩ := h
  refine ⟨before, after ++ bs, ?_, hsame, hbefore⟩
  rw [List.append_assoc, List.cons_append]

theorem exists_isFirst (key : α → Text) (ha : a ∈ as) : ∃ b, IsFirst key (key a) as b := by
  have hsome : (as.find? fun b => Text.sameAscii (key b) (key a)).isSome :=
    List.find?_isSome.2 ⟨a, ha, Text.sameAscii_refl (key a)⟩
  obtain ⟨b, hb⟩ := Option.isSome_iff_exists.1 hsome
  exact ⟨b, isFirst_iff_find?.2 hb⟩

/-! ## What is kept beside the keys that were seen -/

theorem unseen_of_mem (h : Text.lowerAscii (key a) ∈ seen) :
    unseen key seen (a :: as) = unseen key seen as := by
  simp only [unseen, List.contains_iff_mem.2 h, if_true]

theorem unseen_of_not_mem (h : Text.lowerAscii (key a) ∉ seen) :
    unseen key seen (a :: as) = a :: unseen key (Text.lowerAscii (key a) :: seen) as := by
  have hnew : seen.contains (Text.lowerAscii (key a)) = false := by
    rw [Bool.eq_false_iff]
    exact fun hseen => h (List.contains_iff_mem.1 hseen)
  simp only [unseen, hnew, Bool.false_eq_true, if_false]

theorem unseen_sublist : (unseen key seen as).Sublist as := by
  induction as generalizing seen with
  | nil => exact List.Sublist.slnil
  | cons a as ih =>
    by_cases h : Text.lowerAscii (key a) ∈ seen
    · rw [unseen_of_mem h]
      exact ih.cons a
    · rw [unseen_of_not_mem h]
      exact ih.cons_cons a

theorem not_mem_of_mem_unseen (ha : a ∈ unseen key seen as) :
    Text.lowerAscii (key a) ∉ seen := by
  induction as generalizing seen with
  | nil => cases ha
  | cons b as ih =>
    by_cases h : Text.lowerAscii (key b) ∈ seen
    · rw [unseen_of_mem h] at ha
      exact ih ha
    · rw [unseen_of_not_mem h] at ha
      rcases List.mem_cons.1 ha with rfl | ha
      · exact h
      · exact fun hseen => ih ha (List.mem_cons_of_mem _ hseen)

theorem unseen_append (key : α → Text) (seen : List Text) (as bs : List α) :
    ∃ seen', unseen key seen (as ++ bs) = unseen key seen as ++ unseen key seen' bs := by
  induction as generalizing seen with
  | nil => exact ⟨seen, rfl⟩
  | cons a as ih =>
    by_cases h : Text.lowerAscii (key a) ∈ seen
    · obtain ⟨seen', hrest⟩ := ih seen
      refine ⟨seen', ?_⟩
      rw [List.cons_append, unseen_of_mem h, unseen_of_mem h, hrest]
    · obtain ⟨seen', hrest⟩ := ih (Text.lowerAscii (key a) :: seen)
      refine ⟨seen', ?_⟩
      rw [List.cons_append, unseen_of_not_mem h, unseen_of_not_mem h, hrest, List.cons_append]

theorem sameAscii_eq_false_of_seen {b : α} (hb : Text.lowerAscii (key b) ∈ seen)
    (ha : Text.lowerAscii (key a) ∉ seen) : Text.sameAscii (key b) (key a) = false := by
  rw [Bool.eq_false_iff]
  intro hsame
  rw [← Text.sameAscii_iff.1 hsame] at ha
  exact ha hb

theorem unseen_pairwise :
    (unseen key seen as).Pairwise fun a b => Text.sameAscii (key a) (key b) = false := by
  induction as generalizing seen with
  | nil => exact List.Pairwise.nil
  | cons a as ih =>
    by_cases h : Text.lowerAscii (key a) ∈ seen
    · rw [unseen_of_mem h]
      exact ih
    · rw [unseen_of_not_mem h]
      refine List.Pairwise.cons (fun b hb => ?_) ih
      exact sameAscii_eq_false_of_seen List.mem_cons_self (not_mem_of_mem_unseen hb)

theorem exists_mem_unseen (ha : a ∈ as) (hnew : Text.lowerAscii (key a) ∉ seen) :
    ∃ b ∈ unseen key seen as, Text.sameAscii (key b) (key a) = true := by
  induction as generalizing seen with
  | nil => cases ha
  | cons c as ih =>
    by_cases h : Text.lowerAscii (key c) ∈ seen
    · rw [unseen_of_mem h]
      rcases List.mem_cons.1 ha with rfl | ha
      · exact absurd h hnew
      · exact ih ha hnew
    · rw [unseen_of_not_mem h]
      by_cases hsame : Text.sameAscii (key c) (key a) = true
      · exact ⟨c, List.mem_cons_self, hsame⟩
      · have htail : a ∈ as := by
          rcases List.mem_cons.1 ha with rfl | ha
          · exact absurd (Text.sameAscii_refl (key a)) hsame
          · exact ha
        have hstill : Text.lowerAscii (key a) ∉ Text.lowerAscii (key c) :: seen := by
          intro hseen
          rcases List.mem_cons.1 hseen with heq | hseen
          · exact hsame (Text.sameAscii_iff.2 heq.symm)
          · exact hnew hseen
        obtain ⟨b, hb, hba⟩ := ih htail hstill
        exact ⟨b, List.mem_cons_of_mem c hb, hba⟩

theorem unseen_split (h : unseen key seen as = before ++ a :: after) :
    ∃ inner outer, as = inner ++ a :: outer ∧ unseen key seen inner = before ∧
      ∀ b ∈ inner, Text.sameAscii (key b) (key a) = false := by
  -- the key of what is kept later is new to all that is seen on the way there
  have hmem {seen : List Text} {as before : List α}
      (h : unseen key seen as = before ++ a :: after) : Text.lowerAscii (key a) ∉ seen := by
    have ha : a ∈ unseen key seen as := by
      rw [h]
      exact List.mem_append_right before List.mem_cons_self
    exact not_mem_of_mem_unseen ha
  induction as generalizing seen before with
  | nil => cases before <;> cases h
  | cons c as ih =>
    by_cases hc : Text.lowerAscii (key c) ∈ seen
    · rw [unseen_of_mem hc] at h
      have hnew := hmem h
      obtain ⟨inner, outer, rfl, rfl, hinner⟩ := ih h
      exact ⟨c :: inner, outer, rfl, unseen_of_mem hc,
        List.forall_mem_cons.2 ⟨sameAscii_eq_false_of_seen hc hnew, hinner⟩⟩
    · rw [unseen_of_not_mem hc] at h
      cases before with
      | nil =>
        cases h
        exact ⟨[], as, rfl, rfl, fun b hb => absurd hb List.not_mem_nil⟩
      | cons b before =>
        obtain ⟨rfl, hrest⟩ := List.cons.inj h
        have hnew := hmem hrest
        obtain ⟨inner, outer, rfl, rfl, hinner⟩ := ih hrest
        exact ⟨c :: inner, outer, rfl, unseen_of_not_mem hc,
          List.forall_mem_cons.2 ⟨sameAscii_eq_false_of_seen List.mem_cons_self hnew, hinner⟩⟩

/-! ## First spellings -/

theorem firstSpellings_pairwise :
    (firstSpellings key as).Pairwise fun a b => Text.sameAscii (key a) (key b) = false :=
  unseen_pairwise

theorem exists_mem_firstSpellings (key : α → Text) (ha : a ∈ as) :
    ∃ b ∈ firstSpellings key as, Text.sameAscii (key b) (key a) = true :=
  exists_mem_unseen ha List.not_mem_nil

/-- Of two lists the first spellings of the one come before those of the other. -/
theorem firstSpellings_append (as bs : List α) :
    ∃ own shared, firstSpellings key (as ++ bs) = own ++ shared ∧ own.Sublist as ∧
      shared.Sublist bs := by
  obtain ⟨seen, happend⟩ := unseen_append key [] as bs
  exact ⟨_, _, happend, unseen_sublist, unseen_sublist⟩

theorem firstSpellings_split (h : firstSpellings key as = before ++ a :: after) :
    ∃ inner outer, as = inner ++ a :: outer ∧ firstSpellings key inner = before ∧
      ∀ b ∈ inner, Text.sameAscii (key b) (key a) = false :=
  unseen_split h

theorem isFirst_of_mem_firstSpellings (ha : a ∈ firstSpellings key as) :
    IsFirst key (key a) as a := by
  obtain ⟨before, after, hsplit⟩ := List.append_of_mem ha
  obtain ⟨inner, outer, rfl, -, hinner⟩ := firstSpellings_split hsplit
  exact ⟨inner, outer, rfl, Text.sameAscii_refl (key a), hinner⟩

end MarkupCompletion
