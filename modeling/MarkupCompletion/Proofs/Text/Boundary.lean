import MarkupCompletion.Proofs.Text.Prefix

/-
  Boundaries between characters, told by bytes.

  The first byte of an encoded character differs from all that follow it, so a byte offset
  lies between characters if and only if it is the end of the text or the byte there is the
  first of a character (`isBoundary_iff_isCut`); nothing before it has to be read.

  `commonSize` compares bytes, which may stop inside a character of either text, and steps back
  to a boundary of the second alone. What it finds is the size of the longest prefix that the
  texts have in common, character by character, and so is a boundary of both
  (`commonSize_longest`).
-/

namespace MarkupCompletion

namespace Text

/-- Whether bytes end at an offset, or the byte there is the first of a character. -/
def IsCut (bs : List UInt8) (n : Nat) : Prop :=
  n = bs.length ∨ ∃ h : n < bs.length, bs[n].IsUTF8FirstByte

theorem length_bytes (t : Text) : (bytes t).length = size t := by
  induction t with
  | nil => rfl
  | cons c t ih => rw [bytes_cons, List.length_append, String.length_utf8EncodeChar, ih, size_cons]

/-- After a first character the boundaries are those of what follows it. -/
theorem isBoundary_cons {c : Char} {t : Text} {n : Nat} :
    IsBoundary (c :: t) n ↔ n = 0 ∨ c.utf8Size ≤ n ∧ IsBoundary t (n - c.utf8Size) := by
  constructor
  · rintro ⟨p, hp, rfl⟩
    cases p with
    | nil => exact Or.inl rfl
    | cons d p =>
      obtain ⟨rfl, hrest⟩ := List.cons_prefix_cons.1 hp
      rw [size_cons, Nat.add_sub_cancel_left]
      exact Or.inr ⟨Nat.le_add_right _ _, p, hrest, rfl⟩
  · rintro (rfl | ⟨hle, p, hp, hsize⟩)
    · exact ⟨[], List.nil_prefix, rfl⟩
    · exact ⟨c :: p, (List.prefix_cons_inj c).2 hp, by rw [size_cons]; omega⟩

/-- Of the bytes of a character only the first is one, so the cuts after it are those of what
follows. -/
theorem isCut_encoded_append {c : Char} {bs : List UInt8} {n : Nat} :
    IsCut (String.utf8EncodeChar c ++ bs) n ↔
      n = 0 ∨ c.utf8Size ≤ n ∧ IsCut bs (n - c.utf8Size) := by
  have hpos := c.utf8Size_pos
  have hlength : (String.utf8EncodeChar c).length = c.utf8Size := String.length_utf8EncodeChar c
  simp only [IsCut, List.length_append, hlength]
  by_cases hinside : n < c.utf8Size
  · have hbyte (h : n < (String.utf8EncodeChar c ++ bs).length) :
        (String.utf8EncodeChar c ++ bs)[n].IsUTF8FirstByte ↔ n = 0 := by
      rw [List.getElem_append_left (by omega)]
      exact UInt8.isUTF8FirstByte_getElem_utf8EncodeChar
    constructor
    · rintro (hend | ⟨h, hfirst⟩)
      · omega
      · exact Or.inl ((hbyte _).1 hfirst)
    · rintro (hzero | ⟨hle, -⟩)
      · exact Or.inr ⟨by omega, (hbyte _).2 hzero⟩
      · omega
  · have hbyte (h : n < (String.utf8EncodeChar c ++ bs).length)
        (hrest : n - c.utf8Size < bs.length) :
        (String.utf8EncodeChar c ++ bs)[n] = bs[n - c.utf8Size] := by
      rw [List.getElem_append_right (by omega)]
      simp only [hlength]
    constructor
    · rintro (hend | ⟨h, hfirst⟩)
      · exact Or.inr ⟨by omega, Or.inl (by omega)⟩
      · have hrest : n - c.utf8Size < bs.length := by omega
        exact Or.inr ⟨by omega, Or.inr ⟨hrest, hbyte _ hrest ▸ hfirst⟩⟩
    · rintro (hzero | ⟨-, hend | ⟨h, hfirst⟩⟩)
      · omega
      · exact Or.inl (by omega)
      · exact Or.inr ⟨by omega, (hbyte _ h).symm ▸ hfirst⟩

/-- Whether an offset lies between characters is told by the byte that stands there. -/
theorem isBoundary_iff_isCut (t : Text) (n : Nat) : IsBoundary t n ↔ IsCut (bytes t) n := by
  induction t generalizing n with
  | nil =>
    constructor
    · intro h
      exact Or.inl (Nat.le_zero.1 h.le_size)
    · rintro (rfl | ⟨h, -⟩)
      · exact isBoundary_size []
      · exact absurd h (Nat.not_lt_zero n)
  | cons c t ih => rw [isBoundary_cons, bytes_cons, isCut_encoded_append, ih]

theorem commonCount_le_length (x y : List UInt8) : commonCount x y ≤ y.length := by
  induction x generalizing y with
  | nil => exact Nat.zero_le _
  | cons u x ih =>
    cases y with
    | nil => exact Nat.zero_le _
    | cons w y =>
      simp only [commonCount, List.length_cons]
      split
      · have := ih y
        omega
      · exact Nat.zero_le _

theorem commonPrefix_comm (a b : Text) : commonPrefix a b = commonPrefix b a := by
  have hab : commonPrefix a b <+: commonPrefix b a :=
    prefix_commonPrefix (commonPrefix_prefix_right a b) (commonPrefix_prefix_left a b)
  have hba : commonPrefix b a <+: commonPrefix a b :=
    prefix_commonPrefix (commonPrefix_prefix_right b a) (commonPrefix_prefix_left b a)
  exact hab.eq_of_length_le hba.length_le

/-- **Comparing bytes finds the longest prefix of characters.** `commonSize a b` is the last
cut of the bytes of `b` up to which those of `a` and `b` agree, and it is the size in bytes of
the longest prefix that both texts have. So it is a boundary of `a` too, though `a` is not
asked; the order of the texts does not count; and it is all of `a` if and only if `b` begins
with `a`. -/
theorem commonSize_longest (a b : Text) :
    IsGreatest {n | IsCut (bytes b) n ∧ n ≤ commonCount (bytes a) (bytes b)} (commonSize a b) ∧
    (∃ p, p <+: a ∧ p <+: b ∧ (∀ q, q <+: a → q <+: b → q <+: p) ∧
      commonSize a b = (bytes p).length) ∧
    a.IsBoundary (commonSize a b) ∧ b.IsBoundary (commonSize a b) ∧
    commonSize a b = commonSize b a ∧
    (commonSize a b = (bytes a).length ↔ a <+: b) := by
  have hleft := commonPrefix_prefix_left a b
  have hright := commonPrefix_prefix_right a b
  refine ⟨?_, ?_, ?_, ?_, ?_, ?_⟩
  · have hcount : commonCount (bytes a) (bytes b) ≤ size b := by
      rw [← length_bytes]
      exact commonCount_le_length _ _
    have hfloor := isGreatest_size_upTo b (commonCount (bytes a) (bytes b))
    rw [min_eq_left hcount] at hfloor
    simp only [isBoundary_iff_isCut] at hfloor
    exact hfloor
  · refine ⟨commonPrefix a b, hleft, hright, fun q => prefix_commonPrefix, ?_⟩
    rw [commonSize_eq, length_bytes]
  · exact ⟨_, hleft, (commonSize_eq a b).symm⟩
  · exact ⟨_, hright, (commonSize_eq a b).symm⟩
  · rw [commonSize_eq, commonSize_eq, commonPrefix_comm]
  · have hle := size_le_of_isPrefix hleft
    have hless := size_commonPrefix_lt_iff (a := a) (b := b)
    rw [commonSize_eq, length_bytes]
    constructor
    · intro heq
      by_contra hno
      have := hless.2 hno
      omega
    · intro hab
      have : ¬ size (commonPrefix a b) < size a := fun hlt => hless.1 hlt hab
      omega

/-- The first letters differ in their second byte, so the texts share a byte and no character. -/
example : commonCount (bytes "é") (bytes "ê") = 1 ∧ commonSize "é" "ê" = 0 := by decide

end Text

end MarkupCompletion
