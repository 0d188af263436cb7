import MarkupCompletion.Toml.Gap
import MarkupCompletion.Text.Digits

/-
  Dates and times in a TOML document.

  A date is a day of the calendar. A time of day may leave out its seconds, and
  without them it has no fraction. Only a date and a time together may have an
  offset from universal time.
-/

namespace MarkupCompletion

namespace Toml

/-- The number that `width` digits at the start of a text stand for. -/
def fixedDigits (width : Nat) (t : Text) : Option (Nat × Text) :=
  let ds := t.take width
  if ds.length = width ∧ ds.all (isDigitIn 10) then
    (natOfDigits? 10 ds).map fun n => (n, t.drop width)
  else none

def daysIn (year month : Nat) : Nat :=
  if month = 2 then
    if year % 4 = 0 ∧ (year % 100 ≠ 0 ∨ year % 400 = 0) then 29 else 28
  else if [4, 6, 9, 11].contains month then 30
  else 31

def skipDate (t : Text) : Option Text := do
  let (year, t) ← fixedDigits 4 t
  let (month, t) ← fixedDigits 2 (← after '-' t)
  let (day, t) ← fixedDigits 2 (← after '-' t)
  if 1 ≤ month ∧ month ≤ 12 ∧ 1 ≤ day ∧ day ≤ daysIn year month then some t else none

/-- The text after a fraction of a second at its start, if it starts with one. -/
def skipFraction (t : Text) : Option Text :=
  match t with
  | '.' :: r =>
    if (r.takeWhile (isDigitIn 10)).isEmpty then none else some (r.dropWhile (isDigitIn 10))
  | t => some t

/-- The text after the seconds at its start, if it starts with them. A minute may
have a leap second. -/
def skipSeconds (t : Text) : Option Text :=
  match t with
  | ':' :: r => do
    let (second, r) ← fixedDigits 2 r
    if second ≤ 60 then skipFraction r else none
  | t => some t

/-- The text after an hour and a minute at its start. -/
def skipClock (t : Text) : Option Text := do
  let (hour, t) ← fixedDigits 2 t
  let (minute, t) ← fixedDigits 2 (← after ':' t)
  if hour ≤ 23 ∧ minute ≤ 59 then some t else none

def skipTime (t : Text) : Option Text := (skipClock t).bind skipSeconds

/-- Whether a text is nothing or an offset from universal time. -/
def isOffset (t : Text) : Bool :=
  match t with
  | [] => true
  | c :: r =>
    if c = 'Z' ∨ c = 'z' then r.isEmpty
    else (c == '+' || c == '-') && skipClock r == some []

/-- Whether a text is a date, a time of day, or a date and a time joined by `T` or
a blank. -/
def isMoment (t : Text) : Bool :=
  match skipDate t with
  | some [] => true
  | some (c :: r) =>
    (c == 'T' || c == 't' || c == ' ') && ((skipTime r).map isOffset == some true)
  | none => skipTime t == some []

end Toml

end MarkupCompletion
