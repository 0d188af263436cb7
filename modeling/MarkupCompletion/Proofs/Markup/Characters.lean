import MarkupCompletion.Markup.Quote

/-
  The characters that shape markup, told apart.

  A name starts with a character that could not end it (`endsName_of_startsName`),
  and what ends a name is a blank, a quote or one of four signs
  (`endsName_eq_false_iff`). Readers of markup test for these one after the
  other; the lemmas here decide the tests.
-/

namespace MarkupCompletion

/-- What is said of all characters of a text is decided on the text: there are too
many characters to try each. -/
instance (priority := high) decidableForallMem {P : Char → Prop} [DecidablePred P] (t : Text) :
    Decidable (∀ c ∈ t, P c) := List.decidableBAll P t

theorem endsName_eq_false_iff {c : Char} :
    endsName c = false ↔
      isBlank c = false ∧ isQuote c = false ∧ c ≠ '<' ∧ c ≠ '>' ∧ c ≠ '/' ∧ c ≠ '=' := by
  simp only [endsName, Bool.or_eq_false_iff, beq_eq_false_iff_ne, and_assoc, ne_eq]

theorem endsName_of_isBlank {c : Char} (h : isBlank c = true) : endsName c = true := by
  simp only [endsName, h, Bool.true_or]

theorem ne_of_isBlank {c d : Char} (h : isBlank c = true) (hd : isBlank d = false) : c ≠ d := by
  rintro rfl
  rw [h] at hd
  exact Bool.noConfusion hd

theorem ne_of_endsName_eq_false {c d : Char} (h : endsName c = false) (hd : endsName d = true) :
    c ≠ d := by
  rintro rfl
  rw [h] at hd
  exact Bool.noConfusion hd

/-! ## Quotes -/

theorem Quote.ofChar?_eq_none_iff {c : Char} : Quote.ofChar? c = none ↔ isQuote c = false := by
  simp only [Quote.ofChar?, isQuote]
  split
  · next h => simp [h]
  · next h =>
    split
    · next h' => simp [h']
    · next h' => simp [h, h']

theorem Quote.char_eq (q : Quote) : q.char = '"' ∨ q.char = '\'' := by
  cases q
  · exact Or.inl rfl
  · exact Or.inr rfl

/-! ## Starts of names -/

def blankCodes : List Nat :=
  [9, 10, 11, 12, 13, 32, 133, 160, 5760, 8192, 8193, 8194, 8195, 8196, 8197, 8198, 8199, 8200,
   8201, 8202, 8232, 8233, 8239, 8287, 12288]

theorem mem_blankCodes_of_isBlank {c : Char} (h : isBlank c = true) : c.toNat ∈ blankCodes := by
  simp only [isBlank, Bool.or_eq_true, Bool.and_eq_true, decide_eq_true_eq, beq_iff_eq] at h
  simp only [blankCodes, List.mem_cons, List.not_mem_nil, or_false]
  omega

theorem isAlphabetic_of_isBlank {c : Char} (h : isBlank c = true) : isAlphabetic c = false := by
  have table : ∀ n ∈ blankCodes, isAlphabetic (Char.ofNat n) = false := by decide +kernel
  have hc := table c.toNat (mem_blankCodes_of_isBlank h)
  rwa [Char.ofNat_toNat] at hc

theorem endsName_of_startsName {c : Char} (h : startsName c = true) : endsName c = false := by
  have sign (d : Char) (hd : startsName d = false) : c ≠ d := by
    rintro rfl
    rw [h] at hd
    exact Bool.noConfusion hd
  have hblank : isBlank c = false := by
    cases hb : isBlank c with
    | false => rfl
    | true =>
      have halpha := isAlphabetic_of_isBlank hb
      have hlow : c ≠ '_' := ne_of_isBlank hb (by decide)
      have hcolon : c ≠ ':' := ne_of_isBlank hb (by decide)
      simp [startsName, halpha, hlow, hcolon] at h
  have hquote : isQuote c = false := by
    simp only [isQuote, Bool.or_eq_false_iff, beq_eq_false_iff_ne]
    exact ⟨sign '"' (by decide), sign '\'' (by decide)⟩
  exact endsName_eq_false_iff.2 ⟨hblank, hquote, sign '<' (by decide), sign '>' (by decide),
    sign '/' (by decide), sign '=' (by decide)⟩

/-! ## Letter case -/

/-- The letter case of a character has no part in what ends a name. -/
theorem endsName_toLower (c : Char) : endsName c.toLower = endsName c := by
  by_cases h : c.val ≥ 'A'.val ∧ c.val ≤ 'Z'.val
  · have table : ∀ n ∈ List.range' 65 26,
        endsName (Char.ofNat n).toLower = endsName (Char.ofNat n) := by decide +kernel
    have hge : 65 ≤ c.toNat := UInt32.le_iff_toNat_le.1 h.1
    have hle : c.toNat ≤ 90 := UInt32.le_iff_toNat_le.1 h.2
    have hc := table c.toNat (List.mem_range'_1.2 ⟨hge, by omega⟩)
    rwa [Char.ofNat_toNat] at hc
  · have hsame : c.toLower = c := dif_neg h
    rw [hsame]

/-- A text that differs from a name only in letter case has nothing that ends names. -/
theorem endsName_of_sameAscii {a b : Text} (h : Text.sameAscii a b = true)
    (hb : ∀ c ∈ b, endsName c = false) : ∀ c ∈ a, endsName c = false := by
  intro c hc
  have hmem : c.toLower ∈ Text.lowerAscii b := by
    rw [← Text.sameAscii_iff.1 h]
    exact List.mem_map_of_mem hc
  obtain ⟨d, hd, hdc⟩ := List.mem_map.1 hmem
  rw [← endsName_toLower c, ← hdc, endsName_toLower d]
  exact hb d hd

theorem ne_nil_of_sameAscii {a b : Text} (h : Text.sameAscii a b = true) (hb : b ≠ []) :
    a ≠ [] := by
  rintro rfl
  exact hb (List.map_eq_nil_iff.1 (Text.sameAscii_iff.1 h).symm)

end MarkupCompletion
