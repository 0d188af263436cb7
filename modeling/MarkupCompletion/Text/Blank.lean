import MarkupCompletion.Text.Basic

/-
  The White_Space property of Unicode: the characters that separate the words
  of a tag and of a declaration.
-/

namespace MarkupCompletion

/-- Whether a character has the White_Space property. -/
def isBlank (c : Char) : Bool :=
  let n := c.toNat
  (9 ≤ n && n ≤ 13) || n == 32 || n == 133 || n == 160 || n == 5760 || (8192 ≤ n && n ≤ 8202)
    || n == 8232 || n == 8233 || n == 8239 || n == 8287 || n == 12288

end MarkupCompletion
