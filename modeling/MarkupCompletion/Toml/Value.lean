import MarkupCompletion.Text.Basic

/-
  The values of a TOML document.

  Beside its entries a table keeps how it came to be, since that decides whether
  later lines of the document may add to it.
-/

namespace MarkupCompletion

namespace Toml

/-- How a table came to be. -/
inductive Origin where
  /-- written in braces -/
  | braces
  /-- named by a header -/
  | header
  /-- on the way to the table that a header names -/
  | onTheWay
  /-- on the way along a dotted key -/
  | dotted
  deriving DecidableEq, Repr

inductive Value where
  | string (t : Text)
  | integer (n : Int)
  /-- a number with a fraction or exponent, as written -/
  | float (written : Text)
  /-- a number that cannot be held, as written -/
  | unheld (written : Text)
  | boolean (b : Bool)
  /-- a date, a time or both, as written -/
  | moment (written : Text)
  /-- a list; one made by headers grows by further headers -/
  | array (byHeaders : Bool) (items : List Value)
  | table (origin : Origin) (entries : List (Text × Value))
  deriving Inhabited, Repr

abbrev Entries := List (Text × Value)

mutual

def Value.isHeld : Value → Bool
  | .unheld _ => false
  | .array _ items => areHeld items
  | .table _ entries => entriesAreHeld entries
  | .string _ | .integer _ | .float _ | .boolean _ | .moment _ => true

/-- Whether every number in a list of values can be held. -/
def areHeld : List Value → Bool
  | [] => true
  | v :: vs => v.isHeld && areHeld vs

/-- Whether every number in the entries of a table can be held. -/
def entriesAreHeld : List (Text × Value) → Bool
  | [] => true
  | (_, v) :: es => v.isHeld && entriesAreHeld es

end

end Toml

end MarkupCompletion
