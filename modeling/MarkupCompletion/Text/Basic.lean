/-
  Text as a list of characters, and the letter case of ASCII.

  Documents, names, candidates and messages are all `Text`. A list of
  characters lets every rule of the library be a recursion on the text itself;
  a string literal stands for the list of its characters.

  Names in markup are compared without regard to the case of ASCII letters and
  of no others: `lowerAscii` is the key of that comparison and `sameAscii` the
  comparison.
-/

namespace MarkupCompletion

abbrev Text := List Char

/-- A string literal is read as the list of its characters. -/
scoped instance : Coe String Text := ⟨String.toList⟩

namespace Text

/-- The text with `A` to `Z` lowered and every other character kept. -/
def lowerAscii (t : Text) : Text := t.map Char.toLower

def sameAscii (a b : Text) : Bool := lowerAscii a == lowerAscii b

/-- The texts joined, with `separator` between neighbours. -/
def joinWith (separator : Text) : List Text → Text
  | [] => []
  | [t] => t
  | t :: ts => t ++ separator ++ joinWith separator ts

theorem sameAscii_iff {a b : Text} : sameAscii a b = true ↔ lowerAscii a = lowerAscii b :=
  beq_iff_eq

theorem sameAscii_refl (a : Text) : sameAscii a a = true :=
  sameAscii_iff.2 rfl

theorem sameAscii_congr {a b : Text} (h : sameAscii a b = true) (t : Text) :
    sameAscii t a = sameAscii t b := by
  rw [sameAscii, sameAscii, sameAscii_iff.1 h]

theorem sameAscii_comm (a b : Text) : sameAscii a b = sameAscii b a := by
  simp only [sameAscii, Bool.beq_comm]

end Text

end MarkupCompletion
