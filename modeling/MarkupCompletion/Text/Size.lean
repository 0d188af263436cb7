import MarkupCompletion.Text.Basic

/-
  Texts measured in UTF-8 bytes.

  Offsets into a document count bytes, so a cursor may fall inside a character.
  `upTo t n` is the longest part of `t` from its start that fits in `n` bytes
  and `beyond t n` is the rest: together they are `t` (`upTo_append_beyond`).
  `floorBoundary t n` is the offset where they meet, the last character boundary
  at or before `n`.

  `commonSize a b` compares two texts byte by byte and then steps back to a
  character boundary of `b`.
-/

namespace MarkupCompletion

namespace Text

def size : Text → Nat
  | [] => 0
  | c :: cs => c.utf8Size + size cs

def bytes (t : Text) : List UInt8 := t.flatMap String.utf8EncodeChar

/-- The longest part from the start that fits in `n` bytes. -/
def upTo : Text → Nat → Text
  | [], _ => []
  | c :: cs, n => if c.utf8Size ≤ n then c :: upTo cs (n - c.utf8Size) else []

def beyond : Text → Nat → Text
  | [], _ => []
  | c :: cs, n => if c.utf8Size ≤ n then beyond cs (n - c.utf8Size) else c :: cs

/-- The last character boundary at or before byte `n`. -/
def floorBoundary (t : Text) (n : Nat) : Nat := size (upTo t n)

/-- The number of places, from the start, at which two lists agree. -/
def commonCount : List UInt8 → List UInt8 → Nat
  | a :: as, b :: bs => if a = b then commonCount as bs + 1 else 0
  | _, _ => 0

/-- How many bytes `a` and `b` share at their start, moved back to a character
boundary of `b`. -/
def commonSize (a b : Text) : Nat := floorBoundary b (commonCount (bytes a) (bytes b))

/-- The longest part at the end that fits in `n` bytes. -/
def lastBytes (n : Nat) : Text → Text
  | [] => []
  | c :: cs => if size (c :: cs) ≤ n then c :: cs else lastBytes n cs

theorem size_append (a b : Text) : size (a ++ b) = size a + size b := by
  induction a with
  | nil => simp [size]
  | cons c cs ih => simp [size, ih, Nat.add_assoc]

theorem upTo_append_beyond (t : Text) (n : Nat) : upTo t n ++ beyond t n = t := by
  induction t generalizing n with
  | nil => rfl
  | cons c cs ih =>
    simp only [upTo, beyond]
    split
    · simp [ih]
    · rfl

theorem size_upTo_le (t : Text) (n : Nat) : size (upTo t n) ≤ n := by
  induction t generalizing n with
  | nil => exact Nat.zero_le n
  | cons c cs ih =>
    simp only [upTo]
    split
    · have := ih (n - c.utf8Size)
      simp only [size]
      omega
    · exact Nat.zero_le n

end Text

end MarkupCompletion
