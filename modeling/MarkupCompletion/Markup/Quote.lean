import MarkupCompletion.Text.Blank
import MarkupCompletion.Text.Alphabetic

/-
  The characters that shape markup: quotes, the ends of a name and the starts
  of an element name.
-/

namespace MarkupCompletion

/-- The two characters that enclose a literal value. -/
inductive Quote where
  | double
  | single
  deriving DecidableEq, Repr

def Quote.char : Quote → Char
  | .double => '"'
  | .single => '\''

def Quote.ofChar? (c : Char) : Option Quote :=
  if c = '"' then some .double else if c = '\'' then some .single else none

theorem Quote.ofChar?_char (q : Quote) : Quote.ofChar? q.char = some q := by
  cases q <;> rfl

def isQuote (c : Char) : Bool := c == '"' || c == '\''

/-- Whether a character ends the name of an element or attribute. -/
def endsName (c : Char) : Bool :=
  isBlank c || isQuote c || c == '<' || c == '>' || c == '/' || c == '='

/-- Whether a character may start the name of an element. -/
def startsName (c : Char) : Bool := isAlphabetic c || c == '_' || c == ':'

end MarkupCompletion
