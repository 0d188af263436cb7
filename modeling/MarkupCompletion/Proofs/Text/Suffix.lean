import MarkupCompletion.Proofs.Text.Prefix

/-
  The end of a text, kept as it grows.

  `lastBytes n t` is the longest suffix of `t` that fits in `n` bytes
  (`suffix_lastBytes`). A text that grows can be cut down to it at any time:
  what is kept in the end is the same (`lastBytes_append`).
-/

namespace MarkupCompletion

namespace Text

theorem size_lastBytes_le (n : Nat) (t : Text) : size (lastBytes n t) ≤ n := by
  induction t with
  | nil => exact Nat.zero_le n
  | cons c t ih =>
    simp only [lastBytes]
    split
    · next hle => exact hle
    · exact ih

theorem lastBytes_isSuffix (n : Nat) (t : Text) : lastBytes n t <:+ t := by
  induction t with
  | nil => exact List.suffix_rfl
  | cons c t ih =>
    simp only [lastBytes]
    split
    · exact List.suffix_rfl
    · exact ih.trans (List.suffix_cons c t)

theorem suffix_lastBytes {x t : Text} {n : Nat} (hx : x <:+ t) (hn : size x ≤ n) :
    x <:+ lastBytes n t := by
  induction t with
  | nil => exact hx
  | cons c t ih =>
    simp only [lastBytes]
    split
    · exact hx
    · next hgt =>
      rcases List.suffix_cons_iff.1 hx with rfl | hx
      · exact absurd hn hgt
      · exact ih hx

theorem suffix_lastBytes_iff {x t : Text} {n : Nat} (hn : size x ≤ n) :
    x <:+ lastBytes n t ↔ x <:+ t :=
  ⟨fun h => h.trans (lastBytes_isSuffix n t), fun h => suffix_lastBytes h hn⟩

theorem lastBytes_append (n : Nat) (t u : Text) :
    lastBytes n (lastBytes n t ++ u) = lastBytes n (t ++ u) := by
  induction t with
  | nil => rfl
  | cons c t ih =>
    by_cases hle : size (c :: t) ≤ n
    · rw [lastBytes, if_pos hle]
    · have hle' : ¬ size (c :: (t ++ u)) ≤ n := by
        rw [size_cons] at hle ⊢
        rw [size_append]
        omega
      rw [lastBytes, if_neg hle, ih, List.cons_append, lastBytes, if_neg hle']

end Text

end MarkupCompletion
