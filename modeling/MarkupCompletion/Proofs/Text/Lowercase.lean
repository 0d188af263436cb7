import MarkupCompletion.Text.Lowercase

/-
  Full lower case beside the lower case of ASCII.

  The two differ on the capital letters above ASCII and on no other character, whatever
  stands around it (`lowerWithin_eq_iff`). So a text in full lower case is the text itself up
  to the case of ASCII letters if and only if it has no such capital
  (`sameAscii_lower_iff`). Of the ASCII letters of a text full lower case sees no case, not
  even around a sigma (`lower_eq_of_sameAscii`).
-/

namespace MarkupCompletion

/-- Whether a character is a capital above ASCII: one with a lower case that is another. -/
def isCapitalAboveAscii (c : Char) : Bool := 128 ≤ c.toNat && lowerWithin [] c [] != [c]

variable {c : Char} {before after t : Text}

theorem isCapitalAboveAscii_eq_false_iff :
    isCapitalAboveAscii c = false ↔ c.toNat < 128 ∨ lowerWithin [] c [] = [c] := by
  rw [isCapitalAboveAscii, Bool.and_eq_false_iff, decide_eq_false_iff_not, Nat.not_le,
    bne_eq_false_iff_eq]

/-! ## ASCII -/

theorem toLower_of_not_ascii (h : 128 ≤ c.toNat) : c.toLower = c := by
  apply dif_neg
  intro ⟨_, hle⟩
  have hle : c.toNat ≤ 90 := UInt32.le_iff_toNat_le.1 hle
  omega

theorem toNat_toLower_lt (h : c.toNat < 128) : c.toLower.toNat < 128 := by
  have table : ∀ n < 128, (Char.ofNat n).toLower.toNat < 128 := by decide +kernel
  have hc := table c.toNat h
  rwa [Char.ofNat_toNat] at hc

/-- What is the same for a character of ASCII and its lower case is so for every character. -/
theorem apply_toLower {α : Type} (f : Char → α)
    (table : ∀ n < 128, f (Char.ofNat n).toLower = f (Char.ofNat n)) (c : Char) :
    f c.toLower = f c := by
  by_cases hascii : c.toNat < 128
  · have hc := table c.toNat hascii
    rwa [Char.ofNat_toNat] at hc
  · rw [toLower_of_not_ascii (Nat.le_of_not_lt hascii)]

theorem toLower_toLower (c : Char) : c.toLower.toLower = c.toLower :=
  apply_toLower Char.toLower (by decide +kernel) c

/-- A character above ASCII is the lower case of no other in ASCII's rule. -/
theorem eq_of_toLower_eq {d : Char} (hc : 128 ≤ c.toNat) (h : d.toLower = c) : d = c := by
  by_cases hd : 128 ≤ d.toNat
  · rw [← h, toLower_of_not_ascii hd]
  · have hlow := toNat_toLower_lt (Nat.lt_of_not_le hd)
    rw [h] at hlow
    omega

/-! ## One character -/

theorem lowerWithin_of_ne (hi : c ≠ 'İ') (hsigma : c ≠ 'Σ') :
    lowerWithin before c after = [lowerChar c] := by
  rw [lowerWithin, if_neg hi, if_neg hsigma]

theorem lowerWithin_of_ascii (h : c.toNat < 128) : lowerWithin before c after = [c.toLower] := by
  have hi : c ≠ 'İ' := by
    rintro rfl
    exact absurd h (by decide)
  have hsigma : c ≠ 'Σ' := by
    rintro rfl
    exact absurd h (by decide)
  rw [lowerWithin_of_ne hi hsigma, lowerChar, if_pos h]

/-- What stands around a character tells one lower case of a capital from another, not a
capital from a letter that is none. -/
theorem lowerWithin_eq_iff : lowerWithin before c after = [c] ↔ lowerWithin [] c [] = [c] := by
  by_cases hi : c = 'İ'
  · subst hi
    exact iff_of_false (by simp [lowerWithin]) (by simp [lowerWithin])
  · by_cases hsigma : c = 'Σ'
    · subst hsigma
      have hnot (l r : Text) : lowerWithin l 'Σ' r ≠ ['Σ'] := by
        rw [lowerWithin, if_neg (by decide), if_pos rfl]
        split
        · decide
        · decide
      exact iff_of_false (hnot before after) (hnot [] [])
    · rw [lowerWithin_of_ne hi hsigma, lowerWithin_of_ne hi hsigma]

/-- The lower case of all but the capitals above ASCII is that of ASCII. -/
theorem lowerWithin_of_not_capital (h : isCapitalAboveAscii c = false) :
    lowerWithin before c after = [c.toLower] := by
  by_cases hascii : c.toNat < 128
  · exact lowerWithin_of_ascii hascii
  · have hself := (isCapitalAboveAscii_eq_false_iff.1 h).resolve_left hascii
    rw [toLower_of_not_ascii (Nat.le_of_not_lt hascii)]
    exact lowerWithin_eq_iff.2 hself

theorem lowerWithin_singleton (before after : Text) (hi : c ≠ 'İ') :
    ∃ d, lowerWithin before c after = [d] := by
  by_cases hsigma : c = 'Σ'
  · rw [lowerWithin, if_neg hi, if_pos hsigma]
    exact ⟨_, rfl⟩
  · exact ⟨lowerChar c, lowerWithin_of_ne hi hsigma⟩

/-! ## Texts -/

namespace Text

theorem lowerAscii_lowerAscii (t : Text) : lowerAscii (lowerAscii t) = lowerAscii t := by
  unfold lowerAscii
  rw [List.map_map]
  exact List.map_congr_left fun c _ => toLower_toLower c

theorem lowerAfter_of_no_capital (h : ∀ c ∈ t, isCapitalAboveAscii c = false) :
    lowerAfter before t = lowerAscii t := by
  induction t generalizing before with
  | nil => rfl
  | cons c t ih =>
    obtain ⟨hc, ht⟩ := List.forall_mem_cons.1 h
    rw [lowerAfter, lowerWithin_of_not_capital hc, ih ht]
    rfl

theorem length_le_lowerAfter (before t : Text) : t.length ≤ (lowerAfter before t).length := by
  induction t generalizing before with
  | nil => exact Nat.le_refl 0
  | cons c t ih =>
    have hrest := ih (c :: before)
    rw [lowerAfter, List.length_append, List.length_cons]
    by_cases hi : c = 'İ'
    · subst hi
      have htwo : (lowerWithin before 'İ' t).length = 2 := rfl
      omega
    · obtain ⟨d, hd⟩ := lowerWithin_singleton before t hi
      rw [hd, List.length_singleton]
      omega

theorem no_capital_of_lowerAfter (h : lowerAscii (lowerAfter before t) = lowerAscii t) :
    ∀ c ∈ t, isCapitalAboveAscii c = false := by
  induction t generalizing before with
  | nil => exact fun c hc => absurd hc List.not_mem_nil
  | cons c t ih =>
    rw [lowerAfter] at h
    by_cases hi : c = 'İ'
    · -- its lower case is a character longer, and no other makes up for that
      have hlength := congrArg List.length h
      have hrest := length_le_lowerAfter (c :: before) t
      subst hi
      simp only [lowerAscii, List.length_map, List.length_append, List.length_cons] at hlength
      have htwo : (lowerWithin before 'İ' t).length = 2 := rfl
      omega
    · obtain ⟨d, hd⟩ := lowerWithin_singleton before t hi
      rw [hd] at h
      obtain ⟨hhead, htail⟩ := List.cons.inj h
      refine List.forall_mem_cons.2 ⟨?_, ih htail⟩
      rw [isCapitalAboveAscii_eq_false_iff]
      by_cases hascii : c.toNat < 128
      · exact Or.inl hascii
      · have hc : 128 ≤ c.toNat := Nat.le_of_not_lt hascii
        rw [toLower_of_not_ascii hc] at hhead
        rw [eq_of_toLower_eq hc hhead] at hd
        exact Or.inr (lowerWithin_eq_iff.1 hd)

/-- Full lower case changes no more than the case of ASCII letters in a text without
capitals above ASCII, and in no other. -/
theorem sameAscii_lower_iff :
    sameAscii (lower t) t = true ↔ ∀ c ∈ t, isCapitalAboveAscii c = false := by
  rw [sameAscii_iff]
  constructor
  · exact no_capital_of_lowerAfter
  · intro h
    rw [lower, lowerAfter_of_no_capital h, lowerAscii_lowerAscii]

end Text

/-! ## The case of ASCII letters -/

theorem isCased_toLower (c : Char) : isCased c.toLower = isCased c :=
  apply_toLower isCased (by decide +kernel) c

theorem isCaseIgnorable_toLower (c : Char) : isCaseIgnorable c.toLower = isCaseIgnorable c :=
  apply_toLower isCaseIgnorable (by decide +kernel) c

theorem meetsCased_lowerAscii (t : Text) : meetsCased (Text.lowerAscii t) = meetsCased t := by
  induction t with
  | nil => rfl
  | cons c t ih =>
    show meetsCased (c.toLower :: Text.lowerAscii t) = meetsCased (c :: t)
    simp only [meetsCased, isCased_toLower, isCaseIgnorable_toLower, ih]

/-- A sigma sees of its neighbours whether they have case, not which. -/
theorem lowerWithin_lowerAscii (before : Text) (c : Char) (after : Text) :
    lowerWithin (Text.lowerAscii before) c.toLower (Text.lowerAscii after) =
      lowerWithin before c after := by
  by_cases hascii : c.toNat < 128
  · rw [lowerWithin_of_ascii hascii, lowerWithin_of_ascii (toNat_toLower_lt hascii),
      toLower_toLower]
  · rw [toLower_of_not_ascii (Nat.le_of_not_lt hascii)]
    simp only [lowerWithin, meetsCased_lowerAscii]

namespace Text

theorem lowerAfter_lowerAscii (before t : Text) :
    lowerAfter (lowerAscii before) (lowerAscii t) = lowerAfter before t := by
  induction t generalizing before with
  | nil => rfl
  | cons c t ih =>
    show lowerWithin (lowerAscii before) c.toLower (lowerAscii t) ++
        lowerAfter (lowerAscii (c :: before)) (lowerAscii t) =
      lowerWithin before c t ++ lowerAfter (c :: before) t
    rw [lowerWithin_lowerAscii, ih]

/-- Texts that are equal up to the case of ASCII letters have one full lower case. -/
theorem lower_eq_of_sameAscii {a b : Text} (h : sameAscii a b = true) : lower a = lower b :=
  calc lower a = lower (lowerAscii a) := (lowerAfter_lowerAscii [] a).symm
    _ = lower (lowerAscii b) := by rw [sameAscii_iff.1 h]
    _ = lower b := lowerAfter_lowerAscii [] b

end Text

end MarkupCompletion
