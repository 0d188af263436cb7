import MarkupCompletion.Text.Digits
import Mathlib.Tactic.IntervalCases

/-
  Numbers read back from their digits.

  Digits are read from the left, so a number is that of its digits but the last, ten times,
  and the last (`natFrom_concat`); decimal digits are written the same way. Hence reading undoes
  writing (`natOfDigits?_decimal`). No number but zero starts with a zero (`head?_decimal_ne`).
-/

namespace MarkupCompletion

theorem natFrom_concat (base n : Nat) (t : Text) (c : Char) :
    natFrom base n (t ++ [c]) =
      (natFrom base n t).bind fun m => (digitValue? base c).map fun d => m * base + d := by
  induction t generalizing n with
  | nil => cases h : digitValue? base c <;> simp [natFrom, h]
  | cons x t ih =>
    cases h : digitValue? base x with
    | none => simp [natFrom, h]
    | some d => simp [natFrom, h, ih]

theorem digitValue?_digitChar {d : Nat} (h : d < 10) :
    digitValue? 10 (Nat.digitChar d) = some d := by
  interval_cases d <;> decide

theorem natFrom_decimal (n : Nat) : natFrom 10 0 (decimal n) = some n := by
  induction n using Nat.strong_induction_on with
  | _ n ih =>
    rw [decimal, Nat.toDigits_eq_if (by omega)]
    split
    · next hless => simp [natFrom, digitValue?_digitChar hless]
    · next hmore =>
      have hlast := digitValue?_digitChar (Nat.mod_lt n (by omega : 10 > 0))
      have hbefore : natFrom 10 0 (Nat.toDigits 10 (n / 10)) = some (n / 10) :=
        ih (n / 10) (by omega)
      rw [natFrom_concat, hbefore, hlast, Option.bind_some, Option.map_some]
      exact congrArg some (by omega)

theorem decimal_ne_nil (n : Nat) : decimal n ≠ [] := Nat.toDigits_ne_nil

theorem natOfDigits?_decimal (n : Nat) : natOfDigits? 10 (decimal n) = some n := by
  rw [natOfDigits?, if_neg (by simp [decimal_ne_nil]), natFrom_decimal]

theorem isDigitIn_of_mem_decimal {n : Nat} {c : Char} (h : c ∈ decimal n) :
    isDigitIn 10 c = true := by
  induction n using Nat.strong_induction_on with
  | _ n ih =>
    rw [decimal, Nat.toDigits_eq_if (by omega)] at h
    split at h
    · next hless =>
      rw [List.mem_singleton.mp h, isDigitIn, digitValue?_digitChar hless, Option.isSome_some]
    · next hmore =>
      rcases List.mem_append.mp h with hbefore | hlast
      · exact ih (n / 10) (by omega) hbefore
      · rw [List.mem_singleton.mp hlast, isDigitIn, digitValue?_digitChar (by omega),
          Option.isSome_some]

theorem ne_of_holds {p : Char → Bool} {c x : Char} (hc : p c = true) (hx : p x = false) :
    c ≠ x := by
  rintro rfl
  rw [hc] at hx
  cases hx

theorem head?_decimal_ne {n : Nat} (h : 0 < n) : (decimal n).head? ≠ some '0' := by
  induction n using Nat.strong_induction_on with
  | _ n ih =>
    rw [decimal, Nat.toDigits_eq_if (by omega)]
    split
    · next hless => interval_cases n <;> decide
    · next hmore =>
      have hbefore : (decimal (n / 10)).head? ≠ some '0' := ih (n / 10) (by omega) (by omega)
      obtain ⟨c, r, hdigits⟩ := List.exists_cons_of_ne_nil (decimal_ne_nil (n / 10))
      rw [decimal] at hdigits hbefore
      rw [hdigits] at hbefore ⊢
      exact hbefore

end MarkupCompletion
