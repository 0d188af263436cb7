import MarkupCompletion.Toml.Value

/-
  What a TOML value stands for.

  A reader takes a value to what it stands for, or to nothing if it has the wrong
  shape. Records are written as tables; keys that a record does not have are
  passed over, once it is known that their numbers can be held. Records may also
  be written as arrays, with the fields by position; what is left over of an
  array is not looked at.
-/

namespace MarkupCompletion

namespace Toml

/-- The fields of a record, beside which nothing stands that cannot be held. -/
def Entries.record? (names : List Text) (es : Entries) : Option Entries :=
  if es.all fun e => names.contains e.1 || e.2.isHeld then some es else none

namespace Value

def string? : Value → Option Text
  | .string t => some t
  | _ => none

def boolean? : Value → Option Bool
  | .boolean b => some b
  | _ => none

def natural? : Value → Option Nat
  | .integer n => if 0 ≤ n ∧ n < Int.pow 2 64 then some n.toNat else none
  | _ => none

def list? {α : Type} (read : Value → Option α) : Value → Option (List α)
  | .array _ items => items.mapM read
  | _ => none

/-- One of several words, each standing for a member of a type. A table of one
entry, which is empty, is its key. -/
def word? {α : Type} (ofWord : Text → Option α) : Value → Option α
  | .string t => ofWord t
  | .table _ [(key, .table _ [])] => ofWord key
  | .table _ [(key, .array _ [])] => ofWord key
  | _ => none

/-- A record with fields of these names. A moment is one that has none of them. -/
def record? (names : List Text) : Value → Option Entries
  | .table _ entries => Entries.record? names entries
  | .array _ items => some (names.zip items)
  | .moment _ => some []
  | _ => none

end Value

namespace Entries

def required {α : Type} (es : Entries) (key : Text) (read : Value → Option α) : Option α :=
  (es.lookup key).bind read

def optional {α : Type} (es : Entries) (key : Text) (read : Value → Option α) :
    Option (Option α) :=
  match es.lookup key with
  | none => some none
  | some v => (read v).map some

/-- A field that stands for `value` when it is absent. -/
def withDefault {α : Type} (es : Entries) (key : Text) (value : α) (read : Value → Option α) :
    Option α :=
  (es.optional key read).map fun v => v.getD value

end Entries

end Toml

end MarkupCompletion
