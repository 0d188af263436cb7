import MarkupCompletion.Toml.Value
import MarkupCompletion.Text.Digits

/-
  Numbers in a TOML document.

  Integers are held in 128 bits, with a sign or without, and other numbers as
  the nearest binary number of 64 bits. A number that has the form of one but is
  too large, or has no digits to speak of, is `unheld`: it stands where nobody
  looks at it and nowhere else.
-/

namespace MarkupCompletion

namespace Toml

/-- Whether every underscore of a text stands between two characters of a kind;
`follows` tells whether the text itself follows one. -/
def separates (p : Char → Bool) : Bool → Text → Bool
  | _, [] => true
  | follows, c :: r =>
    if c = '_' then follows && r.head?.any p && separates p false r else separates p (p c) r

def ungrouped (t : Text) : Text := t.filter fun c => c != '_'

/-- A sign, if the text starts with one, and the rest. -/
def splitSign : Text → Bool × Text
  | '-' :: r => (true, r)
  | '+' :: r => (false, r)
  | t => (false, t)

def signed (negative : Bool) (n : Nat) : Int := if negative then -(Int.ofNat n) else Int.ofNat n

def holdsInteger (n : Int) : Bool := -(Int.pow 2 127) ≤ n && n < Int.pow 2 128

/-- An integer as it is written, with its value if it has one. -/
def ofInteger (written : Text) (n : Option Int) : Value :=
  match n.filter holdsInteger with
  | some n => .integer n
  | none => .unheld written

/-- An integer in another base, from its digits. There need not be any. -/
def markedInteger? (base : Nat) (written digits : Text) : Option Value :=
  if digits.all (fun c => c == '_' || isDigitIn base c) &&
      separates (isDigitIn 16) false digits then
    some (ofInteger written ((natOfDigits? base (ungrouped digits)).map Int.ofNat))
  else none

/-- A decimal integer without needless zeros. What follows its first underscore
need not be decimal, as long as underscores separate digits of some base. -/
def decimalInteger? (t : Text) : Option Value :=
  let (negative, digits) := splitSign t
  let lead := digits.takeWhile (isDigitIn 10)
  let rest := digits.dropWhile (isDigitIn 10)
  if lead.isEmpty || (lead.head? == some '0' && digits.length != 1) then none
  else if (rest.isEmpty || rest.head? == some '_') && separates (isDigitIn 16) false digits then
    some (ofInteger t ((natOfDigits? 10 (ungrouped digits)).map (signed negative)))
  else none

/-- Whether a character belongs to digits in groups. -/
def isGroupChar (c : Char) : Bool := isDigitIn 10 c || c == '_'

/-- The digits at the start of a text, which may be in groups, and the rest. -/
def splitDigits (t : Text) : Option (Text × Text) :=
  let run := t.takeWhile isGroupChar
  if run.isEmpty || !separates (isDigitIn 10) false run then none
  else some (ungrouped run, t.dropWhile isGroupChar)

/-- The exponent of a number, from its `e` on; zero if there is none. -/
def exponent? : Text → Option Int
  | [] => some 0
  | c :: r =>
    if c = 'e' ∨ c = 'E' then
      let (negative, digits) := splitSign r
      match splitDigits digits with
      | some (digits, []) => (natOfDigits? 10 digits).map (signed negative)
      | _ => none
    else none

/-- A number without a sign: decimal digits and the power of ten of the last one. -/
structure Scientific where
  digits : Text
  power : Int
  deriving DecidableEq, Repr

namespace Scientific

/-- Reads a number with a fraction, an exponent or both. -/
def parse? (t : Text) : Option Scientific := do
  let (whole, t) ← splitDigits t
  if whole.length != 1 && whole.head? == some '0' then none
  else match t with
    | '.' :: r => do
      let (fraction, r) ← splitDigits r
      let e ← exponent? r
      some ⟨whole ++ fraction, e - fraction.length⟩
    | r => (exponent? r).map fun e => ⟨whole, e⟩

/-- The least number that rounds to no finite one of 64 bits: it lies in the middle
between the greatest of those and the next power of two. -/
def limit : Nat := Nat.pow 2 1024 - Nat.pow 2 970

/-- Whether a number rounds to no finite one of 64 bits. The count of its digits
tells, except for those of the size of the limit. -/
def isTooLarge (s : Scientific) : Bool :=
  let digits := s.digits.dropWhile (· == '0')
  let order : Int := digits.length + s.power
  if digits.isEmpty || order < 309 then false
  else if 309 < order then true
  else
    limit * Nat.pow 10 (-s.power).toNat ≤
      (natOfDigits? 10 digits).getD 0 * Nat.pow 10 s.power.toNat

end Scientific

def float? (t : Text) : Option Value :=
  (Scientific.parse? (splitSign t).2).map fun s => if s.isTooLarge then .unheld t else .float t

def number? (t : Text) : Option Value :=
  match t with
  | '0' :: 'x' :: r => markedInteger? 16 t r
  | '0' :: 'o' :: r => markedInteger? 8 t r
  | '0' :: 'b' :: r => markedInteger? 2 t r
  | _ =>
    if (splitSign t).2 = "inf" ∨ (splitSign t).2 = "nan" then some (.float t)
    else if t.any fun c => c == '.' || c == 'e' || c == 'E' then float? t
    else decimalInteger? t

end Toml

end MarkupCompletion
