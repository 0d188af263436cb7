import MarkupCompletion.Text.Basic

/-
  What stands between the parts of a TOML document: blanks, line ends and
  comments.
-/

namespace MarkupCompletion

namespace Toml

/-- Whether a character may stand in a text only when escaped. A tab may stand
as it is. -/
def isControl (c : Char) : Bool := (c.toNat < 32 && c != '\t') || c.toNat == 127

/-- Whether a character separates the parts of a line. -/
def isSpace (c : Char) : Bool := c == ' ' || c == '\t'

def skipSpaces (t : Text) : Text := t.dropWhile isSpace

/-- The text after the blanks, line ends and comments at its start. A comment
that is open goes to the end of the line; a carriage return has to be part of a
line end. -/
def skipGap (inComment : Bool) : Text → Option Text
  | [] => some []
  | c :: r =>
    if c = '\n' then skipGap false r
    else if c = '\r' then if r.head? = some '\n' then skipGap false r else none
    else if inComment then if isControl c then none else skipGap true r
    else if isSpace c then skipGap false r
    else if c = '#' then skipGap true r
    else some (c :: r)

/-- The text from the next line on that holds something; before it the line has
to end. -/
def skipLine (t : Text) : Option Text :=
  match skipSpaces t with
  | [] => some []
  | c :: r => if c = '\n' ∨ c = '\r' ∨ c = '#' then skipGap false (c :: r) else none

/-- The text after a given character at its start. -/
def after (c : Char) : Text → Option Text
  | [] => none
  | x :: r => if x = c then some r else none

/-- The text after one line end, if it starts with one. -/
def dropNewline : Text → Text
  | '\n' :: r => r
  | '\r' :: '\n' :: r => r
  | t => t

end Toml

end MarkupCompletion
