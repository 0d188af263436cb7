import MarkupCompletion.Text.Basic

/-
  How similar two words are.

  The measure is Jaro's: with `m` characters in common, of which `t` pairs
  stand in another order, words of lengths `a` and `b` are similar to the degree
  `(m/a + m/b + (m - t)/m) / 3`. Characters are in common if they are equal and
  stand about as far from the start.
-/

namespace MarkupCompletion

namespace Similarity

/-- Marks the first unmarked place from `low` up to, not including, `high` that
holds a character. The places counted start at `i`. -/
def markOne (c : Char) (low high : Nat) :
    Nat → List (Char × Bool) → Option (List (Char × Bool))
  | _, [] => none
  | i, (x, used) :: r =>
    if high ≤ i then none
    else if low ≤ i && x == c && !used then some ((x, true) :: r)
    else (markOne c low high (i + 1) r).map ((x, used) :: ·)

/-- Marks the characters that a word, from its place `i` on, has in common with
another. Gives those characters and the marked word. -/
def markAll (reach : Nat) : Nat → Text → List (Char × Bool) → Text × List (Char × Bool)
  | _, [], marked => ([], marked)
  | i, c :: r, marked =>
    match markOne c (i - reach) (i + reach + 1) 0 marked with
    | none => markAll reach (i + 1) r marked
    | some marked =>
      let (common, marked) := markAll reach (i + 1) r marked
      (c :: common, marked)

/-- The characters in common, in the order of either word. -/
def common (a b : Text) : Text × Text :=
  let reach := max a.length b.length / 2 - 1
  let (ours, marked) := markAll reach 0 a (b.map fun c => (c, false))
  (ours, (marked.filter (·.2)).map (·.1))

/-- Whether two words are similar to a degree of at least seven tenths. -/
def areSimilar (a b : Text) : Bool :=
  let (ours, theirs) := common a b
  let m := ours.length
  let t := ((ours.zip theirs).filter fun p => p.1 != p.2).length / 2
  let la := a.length
  let lb := b.length
  m ≠ 0 ∧ 21 * la * lb * m ≤ 10 * (m * m * lb + m * m * la + (m - t) * la * lb)

end Similarity

end MarkupCompletion
