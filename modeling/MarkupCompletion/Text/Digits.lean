import MarkupCompletion.Text.Basic

/-
  Numbers in digits.
-/

namespace MarkupCompletion

/-- The value of a digit in a base of at most sixteen. -/
def digitValue? (base : Nat) (c : Char) : Option Nat :=
  let value :=
    if '0' ≤ c ∧ c ≤ '9' then c.toNat - '0'.toNat
    else if 'a' ≤ c ∧ c ≤ 'f' then c.toNat - 'a'.toNat + 10
    else if 'A' ≤ c ∧ c ≤ 'F' then c.toNat - 'A'.toNat + 10
    else base
  if value < base then some value else none

def isDigitIn (base : Nat) (c : Char) : Bool := (digitValue? base c).isSome

/-- The number that digits stand for after a number already read. -/
def natFrom (base : Nat) : Nat → Text → Option Nat
  | n, [] => some n
  | n, c :: cs => (digitValue? base c).bind fun d => natFrom base (n * base + d) cs

/-- The number that digits stand for; there has to be one. -/
def natOfDigits? (base : Nat) (t : Text) : Option Nat :=
  if t.isEmpty then none else natFrom base 0 t

def decimal (n : Nat) : Text := Nat.toDigits 10 n

/-- A number in at least `width` hexadecimal digits, with small letters. -/
def hexadecimal (width n : Nat) : Text :=
  let digits := Nat.toDigits 16 n
  List.replicate (width - digits.length) '0' ++ digits

def charOfCode? (n : Nat) : Option Char :=
  if n.isValidChar then some (Char.ofNat n) else none

end MarkupCompletion
