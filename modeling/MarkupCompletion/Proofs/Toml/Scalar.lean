import MarkupCompletion.Proofs.Text.Digits
import MarkupCompletion.Toml.Decode
import MarkupCompletion.Toml.Scalar
import Mathlib.Data.List.TakeWhile

/-
  Truth values and numbers read back as they were written.

  A word of digits is taken for nothing but a decimal integer: it has no sign, no mark of a
  base, no fraction and no exponent (`number?_decimal`). A word on its own is read up to the end
  of its line (`readAtom_word`).
-/

namespace MarkupCompletion

namespace Toml

/-! ## Characters of a kind -/

theorem isSpace_eq_false {p : Char → Bool} {c : Char} (hc : p c = true) (hblank : p ' ' = false)
    (htab : p '\t' = false) : isSpace c = false := by
  simp [isSpace, ne_of_holds hc hblank, ne_of_holds hc htab]

theorem span_word {p : Char → Bool} {t rest : Text} (ht : ∀ c ∈ t, p c = true)
    (hrest : ∀ c ∈ rest.head?, p c = false) :
    (t ++ rest).takeWhile p = t ∧ (t ++ rest).dropWhile p = rest := by
  have hstop : rest.takeWhile p = [] ∧ rest.dropWhile p = rest := by
    cases rest with
    | nil => exact ⟨rfl, rfl⟩
    | cons c r => simp [hrest c rfl]
  rw [List.takeWhile_append_of_pos ht, List.dropWhile_append_of_pos ht, hstop.1, hstop.2,
    List.append_nil]
  exact ⟨rfl, rfl⟩

/-! ## Words -/

section Digits

variable {t : Text} (ht : ∀ c ∈ t, isDigitIn 10 c = true)

include ht

theorem splitSign_of_digits : splitSign t = (false, t) := by
  cases t with
  | nil => rfl
  | cons c r =>
    have hc := ht c List.mem_cons_self
    unfold splitSign
    split
    · next heq =>
      rw [(List.cons.inj heq).1] at hc
      exact absurd hc (by decide)
    · next heq =>
      rw [(List.cons.inj heq).1] at hc
      exact absurd hc (by decide)
    · rfl

theorem not_mem_of_digits {x : Char} (hx : isDigitIn 10 x = false) : x ∉ t := fun h =>
  ne_of_holds (ht x h) hx rfl

theorem separates_of_digits (p : Char → Bool) (follows : Bool) :
    separates p follows t = true := by
  induction t generalizing follows with
  | nil => rfl
  | cons c t ih =>
    obtain ⟨hc, ht⟩ := List.forall_mem_cons.mp ht
    rw [separates, if_neg (ne_of_holds hc (by decide)), ih ht]

theorem ungrouped_of_digits : ungrouped t = t :=
  List.filter_eq_self.mpr fun _ hc => bne_iff_ne.mpr (ne_of_holds (ht _ hc) (by decide))

end Digits

theorem ofInteger_some {n : Int} (h : holdsInteger n = true) (written : Text) :
    ofInteger written (some n) = .integer n := by
  rw [ofInteger, Option.filter_some, if_pos h]

/-- A word of digits that starts with no needless zero is their number. -/
theorem decimalInteger?_decimal {n : Nat} (h : holdsInteger n = true) :
    decimalInteger? (decimal n) = some (.integer n) := by
  have hdigits : ∀ c ∈ decimal n, isDigitIn 10 c = true := fun _ => isDigitIn_of_mem_decimal
  have hlead : (decimal n).takeWhile (isDigitIn 10) = decimal n :=
    List.takeWhile_eq_self_iff.mpr hdigits
  have hrest : (decimal n).dropWhile (isDigitIn 10) = [] := List.dropWhile_eq_nil_iff.mpr hdigits
  have hzero : ((decimal n).isEmpty ||
      ((decimal n).head? == some '0' && (decimal n).length != 1)) = false := by
    rcases Nat.eq_zero_or_pos n with rfl | hpos
    · decide
    · simp [decimal_ne_nil, head?_decimal_ne hpos]
  simp only [decimalInteger?, splitSign_of_digits hdigits, hlead, hrest, hzero,
    separates_of_digits hdigits, ungrouped_of_digits hdigits, natOfDigits?_decimal,
    Option.map_some, signed, List.isEmpty_nil, Bool.true_or, Bool.and_self, if_true,
    Bool.false_eq_true, if_false]
  exact congrArg some (ofInteger_some h _)

/-- A word of digits has no mark of a base, no fraction and no exponent. -/
theorem number?_decimal {n : Nat} (h : holdsInteger n = true) :
    number? (decimal n) = some (.integer n) := by
  have hdigits : ∀ c ∈ decimal n, isDigitIn 10 c = true := fun _ => isDigitIn_of_mem_decimal
  have hmark {x : Char} (r : Text) (hx : isDigitIn 10 x = false) : decimal n ≠ '0' :: x :: r :=
    fun heq => not_mem_of_digits hdigits hx (heq ▸ List.mem_cons_of_mem _ List.mem_cons_self)
  have hinf : decimal n ≠ ("inf" : Text) := fun heq =>
    not_mem_of_digits hdigits (x := 'i') rfl (heq ▸ by decide)
  have hnan : decimal n ≠ ("nan" : Text) := fun heq =>
    not_mem_of_digits hdigits (x := 'n') rfl (heq ▸ by decide)
  have hpoint : ¬((decimal n).any fun c => c == '.' || c == 'e' || c == 'E') = true := by
    intro hany
    obtain ⟨c, hc, heq⟩ := List.any_eq_true.mp hany
    simp only [Bool.or_eq_true, beq_iff_eq] at heq
    rcases heq with (rfl | rfl) | rfl <;> exact not_mem_of_digits hdigits (by decide) hc
  unfold number?
  split
  · next heq => exact absurd heq (hmark _ (by decide))
  · next heq => exact absurd heq (hmark _ (by decide))
  · next heq => exact absurd heq (hmark _ (by decide))
  · rw [splitSign_of_digits hdigits, if_neg (not_or.mpr ⟨hinf, hnan⟩), if_neg hpoint,
      decimalInteger?_decimal h]

theorem ofAtom?_decimal {n : Nat} (h : holdsInteger n = true) :
    ofAtom? (decimal n) = some (.integer n) := by
  have hdigits : ∀ c ∈ decimal n, isDigitIn 10 c = true := fun _ => isDigitIn_of_mem_decimal
  have htrue : decimal n ≠ ("true" : Text) := fun heq =>
    not_mem_of_digits hdigits (x := 't') rfl (heq ▸ by decide)
  have hfalse : decimal n ≠ ("false" : Text) := fun heq =>
    not_mem_of_digits hdigits (x := 'f') rfl (heq ▸ by decide)
  rw [ofAtom?, if_neg htrue, if_neg hfalse, number?_decimal h]
  rfl

theorem isAtomChar_of_digit {c : Char} (h : isDigitIn 10 c = true) : isAtomChar c = true := by
  have hne {x : Char} (hx : isDigitIn 10 x = false) : c ≠ x := ne_of_holds h hx
  simp (disch := decide) [isAtomChar, isSpace, hne]

theorem readAtom_word {t : Text} {v : Value} (ht : ∀ c ∈ t, isAtomChar c = true)
    (h : ofAtom? t = some v) (rest : Text) :
    readAtom (t ++ '\n' :: rest) = some (v, '\n' :: rest) := by
  have hend : ∀ c ∈ ('\n' :: rest).head?, isAtomChar c = false := by
    rintro c ⟨rfl⟩
    decide
  obtain ⟨htake, hdrop⟩ := span_word ht hend
  simp only [readAtom, htake, hdrop, h]
  split
  · next heq => exact absurd (List.cons.inj heq).1 (by decide)
  · rfl

/-! ## Numbers of 64 bits with a sign -/

theorem holdsInteger_natCast {n : Nat} (h : n < 2 ^ 63) : holdsInteger n = true := by
  have hleast : Int.pow 2 127 = 170141183460469231731687303715884105728 := by decide
  have hmost : Int.pow 2 128 = 340282366920938463463374607431768211456 := by decide
  rw [holdsInteger, hleast, hmost, Bool.and_eq_true, decide_eq_true_eq, decide_eq_true_eq]
  omega

theorem natural?_natCast {n : Nat} (h : n < 2 ^ 63) : Value.natural? (.integer n) = some n := by
  have hpow : Int.pow 2 64 = 18446744073709551616 := by decide
  rw [Value.natural?, hpow, if_pos (by omega), Int.toNat_natCast]

end Toml

end MarkupCompletion
