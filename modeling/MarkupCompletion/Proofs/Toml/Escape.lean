import MarkupCompletion.Toml.Quoted
import Mathlib.Tactic.ByContra

/-
  Characters inside double quotes.

  A character stands there as it is or escaped, and an escape is one that reading undoes and that
  joins no lines (`Stands`). Every character that is written stands in one of these ways
  (`stands_escapeChar`), so a string is written as its characters stand, one after the other
  (`escape_cons`).
-/

namespace MarkupCompletion

namespace Toml

/-- The ways in which a character stands inside double quotes. -/
inductive Stands (lines : Bool) (c : Char) : Text → Prop where
  | plain (hslash : c ≠ '\\') (hcontrol : isControl c = true → lines = true ∧ c = '\n') :
    Stands lines c [c]
  | escaped (e : Text) (hread : ∀ r, readEscape (e ++ r) = some (c, r))
      (hjoin : ∀ r, joinLines (e ++ r) = none) : Stands lines c ('\\' :: e)

theorem skipSpaces_cons {c : Char} (h : isSpace c = false) (r : Text) :
    skipSpaces (c :: r) = c :: r := by
  simp [skipSpaces, h]

theorem joinLines_cons {x : Char} (r : Text) (hspace : isSpace x = false) (hn : x ≠ '\n')
    (hr : x ≠ '\r') : joinLines (x :: r) = none := by
  rw [joinLines, skipSpaces_cons hspace]
  split
  · next h => exact absurd (List.cons.inj h).1 hn
  · next h => exact absurd (List.cons.inj h).1 hr
  · rfl

theorem letter_of_unescape? {x c : Char} (h : unescape? x = some c) :
    x ∈ ['b', 'e', 't', 'n', 'f', 'r', '"', '\\'] := by
  by_contra hx
  simp only [List.mem_cons, List.not_mem_nil, or_false, not_or] at hx
  obtain ⟨hb, he, ht, hn, hf, hr, hquote, hslash⟩ := hx
  simp [unescape?, hb, he, ht, hn, hf, hr, hquote, hslash] at h

theorem stands_letter (lines : Bool) {x c : Char} (h : unescape? x = some c) :
    Stands lines c ['\\', x] := by
  have hx : ∀ x ∈ ['b', 'e', 't', 'n', 'f', 'r', '"', '\\'], isSpace x = false ∧
      x ≠ '\n' ∧ x ≠ '\r' ∧ x ≠ 'x' ∧ x ≠ 'u' ∧ x ≠ 'U' := by decide
  obtain ⟨hspace, hn, hr, h2, h4, h8⟩ := hx x (letter_of_unescape? h)
  refine .escaped [x] (fun r => ?_) fun r => joinLines_cons r hspace hn hr
  rw [List.singleton_append, readEscape, if_neg h2, if_neg h4, if_neg h8, h, Option.map_some]

theorem code_of_control {c : Char} (h : isControl c = true) : c.toNat < 128 := by
  simp only [isControl, Bool.or_eq_true, Bool.and_eq_true, decide_eq_true_eq, beq_iff_eq] at h
  omega

theorem hexadecimal_four {n : Nat} (h : n < 128) :
    ((hexadecimal 4 n).map Char.toUpper).length = 4 ∧
      natOfDigits? 16 ((hexadecimal 4 n).map Char.toUpper) = some n := by
  have hall : ∀ n < 128, ((hexadecimal 4 n).map Char.toUpper).length = 4 ∧
      natOfDigits? 16 ((hexadecimal 4 n).map Char.toUpper) = some n := by decide +kernel
  exact hall n h

theorem charOfCode?_toNat (c : Char) : charOfCode? c.toNat = some c := by
  have hvalid : c.toNat.isValidChar := c.valid
  rw [charOfCode?, if_pos hvalid, Char.ofNat_toNat]

theorem stands_code (lines : Bool) {c : Char} (h : isControl c = true) :
    Stands lines c ("\\u" ++ (hexadecimal 4 c.toNat).map Char.toUpper) := by
  obtain ⟨hlength, hvalue⟩ := hexadecimal_four (code_of_control h)
  refine .escaped ('u' :: (hexadecimal 4 c.toNat).map Char.toUpper) (fun r => ?_) fun r =>
    joinLines_cons _ (by decide) (by decide) (by decide)
  generalize (hexadecimal 4 c.toNat).map Char.toUpper = digits at hlength hvalue
  have hcode : readCode 4 (digits ++ r) = some (c, r) := by
    rw [readCode, if_neg (by rw [List.length_append]; omega), List.take_left' hlength,
      List.drop_left' hlength, hvalue, Option.bind_some, charOfCode?_toNat, Option.map_some]
  rw [List.cons_append, readEscape, if_neg (by decide), if_pos rfl, hcode]

/-- A character is written in one of the ways in which it can stand. -/
theorem stands_escapeChar (lines : Bool) (c : Char) : Stands lines c (escapeChar lines c) := by
  unfold escapeChar
  split
  · next h => subst h; exact stands_letter lines rfl
  split
  · next h => subst h; exact stands_letter lines rfl
  split
  · next h =>
    subst h
    split
    · next hlines => exact .plain (by decide) fun _ => ⟨hlines, rfl⟩
    · exact stands_letter lines rfl
  split
  · next h => subst h; exact stands_letter lines rfl
  split
  · next h => subst h; exact stands_letter lines rfl
  split
  · next h => subst h; exact stands_letter lines rfl
  · next hslash =>
    -- what has no letter of its own stands as its code, if it cannot stand as it is
    split
    · next hcontrol => exact stands_code lines hcontrol
    · next hcontrol => exact .plain hslash fun h => absurd h hcontrol

/-- What a character is written as starts with it or with a backslash. -/
theorem Stands.head?_eq {lines : Bool} {c : Char} {e : Text} (h : Stands lines c e) :
    e = [c] ∧ (isControl c = true → lines = true ∧ c = '\n') ∨ e.head? = some '\\' := by
  cases h with
  | plain hslash hcontrol => exact .inl ⟨rfl, hcontrol⟩
  | escaped e hread hjoin => exact .inr rfl

/-- A string is written character by character. A quote stands as it is only where it
adds to a run that is not too long. -/
theorem escape_cons (lines : Bool) (run : Nat) (c : Char) (t : Text) :
    ∃ e run', escape lines run (c :: t) = e ++ escape lines run' t ∧ Stands lines c e ∧
      run' ≤ (if lines then 2 else 0) ∧ (e.head? = some '"' → run' = run + 1) := by
  by_cases hquote : c = '"'
  · subst hquote
    rw [escape, if_pos rfl]
    by_cases hrun : run < if lines then 2 else 0
    · rw [if_pos hrun]
      exact ⟨['"'], run + 1, rfl, .plain (by decide) (absurd · (by decide)), hrun, fun _ => rfl⟩
    · rw [if_neg hrun]
      exact ⟨['\\', '"'], 0, rfl, stands_letter lines rfl, Nat.zero_le _, by simp⟩
  · have hstands := stands_escapeChar lines c
    rw [escape, if_neg hquote]
    refine ⟨escapeChar lines c, 0, rfl, hstands, Nat.zero_le _, fun hhead => ?_⟩
    obtain ⟨he, -⟩ | he := hstands.head?_eq
    · rw [he] at hhead
      exact absurd (Option.some.inj hhead) hquote
    · rw [he] at hhead
      exact absurd (Option.some.inj hhead) (by decide)

end Toml

end MarkupCompletion
