import MarkupCompletion.Text.Size
import Mathlib.Data.List.Infix
import Mathlib.Order.Bounds.Basic

/-
  Prefixes of a text and their sizes in bytes.

  The prefixes of a text are ordered by size (`prefix_of_size_le`), so a
  boundary, a size at which a prefix ends, names the prefix. Cutting a text at
  a boundary gives the prefix and what follows it (`upTo_append_size`,
  `beyond_append_size`), and cutting it anywhere gives the prefix of the last
  boundary at or before the cut (`isGreatest_size_upTo`).

  `commonPrefix` compares two texts character by character. No encoded
  character begins with another one, so the byte by byte comparison that
  `commonSize` makes finds the same prefix (`commonSize_eq`). It is the longest
  that both texts have (`isGreatest_size_commonPrefix`), and shorter than a text
  that does not begin the other (`size_commonPrefix_lt_iff`).
-/

namespace MarkupCompletion

namespace Text

/-! ## Sizes of prefixes -/

theorem size_cons (c : Char) (t : Text) : size (c :: t) = c.utf8Size + size t := rfl

theorem size_le_of_isPrefix {p t : Text} (h : p <+: t) : size p ≤ size t := by
  obtain ⟨r, rfl⟩ := h
  rw [size_append]
  omega

theorem eq_nil_of_size_eq_zero {t : Text} (h : size t = 0) : t = [] := by
  cases t with
  | nil => rfl
  | cons c t =>
    have := c.utf8Size_pos
    rw [size_cons] at h
    omega

/-- Of two prefixes of a text the one of fewer bytes is a prefix of the other. -/
theorem prefix_of_size_le {p q t : Text} (hp : p <+: t) (hq : q <+: t)
    (h : size p ≤ size q) : p <+: q := by
  rcases List.prefix_or_prefix_of_prefix hp hq with hpq | hqp
  · exact hpq
  · obtain ⟨r, rfl⟩ := hqp
    rw [size_append] at h
    have hr : r = [] := eq_nil_of_size_eq_zero (by omega)
    rw [hr, List.append_nil]

theorem eq_of_prefix_of_size_eq {p q t : Text} (hp : p <+: t) (hq : q <+: t)
    (h : size p = size q) : p = q := by
  obtain ⟨r, rfl⟩ := prefix_of_size_le hp hq (by omega)
  rw [size_append] at h
  have hr : r = [] := eq_nil_of_size_eq_zero (by omega)
  rw [hr, List.append_nil]

/-! ## Cutting a text -/

theorem upTo_isPrefix (t : Text) (n : Nat) : upTo t n <+: t :=
  ⟨beyond t n, upTo_append_beyond t n⟩

theorem upTo_append_size (p r : Text) : upTo (p ++ r) (size p) = p := by
  induction p with
  | nil =>
    cases r with
    | nil => rfl
    | cons c r =>
      have := c.utf8Size_pos
      simp only [List.nil_append, size, upTo]
      rw [if_neg (by omega)]
  | cons c p ih =>
    simp only [List.cons_append, size, upTo]
    rw [if_pos (by omega), Nat.add_sub_cancel_left, ih]

theorem beyond_append_size (p r : Text) : beyond (p ++ r) (size p) = r := by
  have h := upTo_append_beyond (p ++ r) (size p)
  rw [upTo_append_size] at h
  exact List.append_cancel_left h

theorem upTo_size_of_isPrefix {p t : Text} (h : p <+: t) : upTo t (size p) = p := by
  obtain ⟨r, rfl⟩ := h
  exact upTo_append_size p r

theorem append_beyond_of_isPrefix {p t : Text} (h : p <+: t) : p ++ beyond t (size p) = t := by
  obtain ⟨r, rfl⟩ := h
  rw [beyond_append_size]

theorem prefix_upTo {p t : Text} {n : Nat} (hp : p <+: t) (h : size p ≤ n) : p <+: upTo t n := by
  induction p generalizing t n with
  | nil => exact List.nil_prefix
  | cons c p ih =>
    obtain ⟨r, rfl⟩ := hp
    rw [size_cons] at h
    simp only [List.cons_append, upTo]
    rw [if_pos (by omega)]
    rw [List.prefix_cons_inj]
    exact ih (List.prefix_append p r) (by omega)

/-! ## Boundaries -/

/-- Whether a character of the text, or none, ends at byte `n`. -/
def IsBoundary (t : Text) (n : Nat) : Prop := ∃ p, p <+: t ∧ size p = n

theorem isBoundary_size (t : Text) : IsBoundary t (size t) := ⟨t, List.prefix_rfl, rfl⟩

theorem IsBoundary.le_size {t : Text} {n : Nat} (h : IsBoundary t n) : n ≤ size t := by
  obtain ⟨p, hp, rfl⟩ := h
  exact size_le_of_isPrefix hp

theorem isBoundary_concat {t : Text} {c : Char} {n : Nat} :
    IsBoundary (t ++ [c]) n ↔ IsBoundary t n ∨ n = size (t ++ [c]) := by
  constructor
  · rintro ⟨p, hp, rfl⟩
    rcases List.prefix_concat_iff.1 hp with rfl | hp
    · exact Or.inr rfl
    · exact Or.inl ⟨p, hp, rfl⟩
  · rintro (⟨p, hp, rfl⟩ | rfl)
    · exact ⟨p, hp.trans (List.prefix_append t [c]), rfl⟩
    · exact isBoundary_size _

/-- A cut is at the last boundary at or before `n`; an `n` past the end counts
as the end. -/
theorem isGreatest_size_upTo (t : Text) (n : Nat) :
    IsGreatest {m | IsBoundary t m ∧ m ≤ min n (size t)} (size (upTo t n)) := by
  refine ⟨⟨⟨upTo t n, upTo_isPrefix t n, rfl⟩, ?_⟩, ?_⟩
  · exact le_min (size_upTo_le t n) (size_le_of_isPrefix (upTo_isPrefix t n))
  · rintro m ⟨⟨p, hp, rfl⟩, hm⟩
    exact size_le_of_isPrefix (prefix_upTo hp (le_trans hm (min_le_left _ _)))

/-! ## What two texts have in common -/

/-- The longest text with which both begin. -/
def commonPrefix : Text → Text → Text
  | a :: as, b :: bs => if a = b then a :: commonPrefix as bs else []
  | _, _ => []

theorem commonPrefix_prefix_left (a b : Text) : commonPrefix a b <+: a := by
  induction a generalizing b with
  | nil => exact List.prefix_rfl
  | cons c a ih =>
    cases b with
    | nil => exact List.nil_prefix
    | cons d b =>
      simp only [commonPrefix]
      split
      · exact (List.prefix_cons_inj c).2 (ih b)
      · exact List.nil_prefix

theorem commonPrefix_prefix_right (a b : Text) : commonPrefix a b <+: b := by
  induction a generalizing b with
  | nil => exact List.nil_prefix
  | cons c a ih =>
    cases b with
    | nil => exact List.prefix_rfl
    | cons d b =>
      simp only [commonPrefix]
      split
      · next h => subst h; exact (List.prefix_cons_inj c).2 (ih b)
      · exact List.nil_prefix

theorem prefix_commonPrefix {p a b : Text} (ha : p <+: a) (hb : p <+: b) :
    p <+: commonPrefix a b := by
  induction p generalizing a b with
  | nil => exact List.nil_prefix
  | cons c p ih =>
    obtain ⟨a, rfl⟩ := ha
    obtain ⟨b, rfl⟩ := hb
    simp only [List.cons_append, commonPrefix, if_true]
    exact (List.prefix_cons_inj c).2 (ih (List.prefix_append p a) (List.prefix_append p b))

theorem isGreatest_size_commonPrefix (a b : Text) :
    IsGreatest {n | ∃ p, p <+: a ∧ p <+: b ∧ size p = n} (size (commonPrefix a b)) := by
  constructor
  · exact ⟨_, commonPrefix_prefix_left a b, commonPrefix_prefix_right a b, rfl⟩
  · rintro n ⟨p, ha, hb, rfl⟩
    exact size_le_of_isPrefix (prefix_commonPrefix ha hb)

/-- The common prefix is all of a text that the other one begins with, and shorter
otherwise. -/
theorem size_commonPrefix_lt_iff {a b : Text} :
    size (commonPrefix a b) < size a ↔ ¬ a <+: b := by
  have hleft := commonPrefix_prefix_left a b
  constructor
  · intro hlt hab
    have := size_le_of_isPrefix (prefix_commonPrefix List.prefix_rfl hab)
    omega
  · intro hab
    by_contra hge
    have hle := size_le_of_isPrefix hleft
    have heq := eq_of_prefix_of_size_eq hleft List.prefix_rfl (by omega)
    exact hab (heq ▸ commonPrefix_prefix_right a b)

theorem commonCount_append (x a b : List UInt8) :
    commonCount (x ++ a) (x ++ b) = x.length + commonCount a b := by
  induction x with
  | nil => rw [List.length_nil, Nat.zero_add]; rfl
  | cons u x ih =>
    simp only [List.cons_append, commonCount, if_true, ih, List.length_cons]
    omega

theorem prefix_of_length_le_commonCount {a x b : List UInt8}
    (h : x.length ≤ commonCount a (x ++ b)) : x <+: a := by
  induction x generalizing a with
  | nil => exact List.nil_prefix
  | cons u x ih =>
    cases a with
    | nil => simp [commonCount] at h
    | cons w a =>
      simp only [List.cons_append, commonCount, List.length_cons] at h
      split at h
      · next hw =>
        subst hw
        exact (List.prefix_cons_inj w).2 (ih (by omega))
      · omega

/-- UTF-8 is a prefix code: bytes that begin with two encoded characters begin
with one. -/
theorem eq_of_utf8EncodeChar_append {c d : Char} {x y : List UInt8}
    (h : String.utf8EncodeChar c ++ x = String.utf8EncodeChar d ++ y) : c = d := by
  have decoded (e : Char) (z : List UInt8) :
      ByteArray.utf8DecodeChar? ((String.utf8EncodeChar e ++ z).toByteArray) 0 = some e := by
    rw [List.toByteArray_append]
    exact ByteArray.utf8DecodeChar?_utf8EncodeChar_append
  have hc := decoded c x
  rw [h, decoded d y] at hc
  exact (Option.some.inj hc).symm

theorem bytes_cons (c : Char) (t : Text) : bytes (c :: t) = String.utf8EncodeChar c ++ bytes t :=
  List.flatMap_cons

/-- Texts whose first characters differ agree in fewer bytes than a character has. -/
theorem commonCount_lt_of_ne {c d : Char} (a b : Text) (h : c ≠ d) :
    commonCount (bytes (c :: a)) (bytes (d :: b)) < d.utf8Size := by
  rw [bytes_cons, bytes_cons, ← String.length_utf8EncodeChar d]
  by_contra hle
  obtain ⟨r, hr⟩ := prefix_of_length_le_commonCount (Nat.le_of_not_lt hle)
  exact h (eq_of_utf8EncodeChar_append hr.symm)

/-- Comparing bytes and stepping back to a boundary finds the common prefix. -/
theorem upTo_commonCount (a b : Text) :
    upTo b (commonCount (bytes a) (bytes b)) = commonPrefix a b := by
  induction a generalizing b with
  | nil =>
    cases b with
    | nil => rfl
    | cons d b =>
      have := d.utf8Size_pos
      simp only [bytes, List.flatMap_nil, commonCount, upTo, commonPrefix]
      rw [if_neg (by omega)]
  | cons c a ih =>
    cases b with
    | nil => rfl
    | cons d b =>
      by_cases hcd : c = d
      · subst hcd
        rw [bytes_cons, bytes_cons, commonCount_append, String.length_utf8EncodeChar]
        simp only [upTo, commonPrefix, if_true]
        rw [if_pos (by omega), Nat.add_sub_cancel_left, ih]
      · have := commonCount_lt_of_ne a b hcd
        simp only [upTo, commonPrefix]
        rw [if_neg (by omega), if_neg hcd]

theorem commonSize_eq (a b : Text) : commonSize a b = size (commonPrefix a b) := by
  rw [commonSize, floorBoundary, upTo_commonCount]

end Text

end MarkupCompletion
