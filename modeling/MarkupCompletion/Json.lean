import MarkupCompletion.Text.Basic
import MarkupCompletion.Text.Digits

/-
  JSON values and the two ways in which they are written: on one line, and with
  each member on a line of its own. Objects keep the order of their members.
-/

namespace MarkupCompletion

inductive Json where
  | null
  | boolean (b : Bool)
  /-- a number, as written -/
  | number (written : Text)
  | string (t : Text)
  | array (items : List Json)
  | object (members : List (Text × Json))
  deriving Inhabited, Repr

namespace Json

/-- A character inside a string. Only quotes, backslashes and control characters
are escaped. -/
def escapeChar (c : Char) : Text :=
  if c = '"' then ['\\', '"']
  else if c = '\\' then ['\\', '\\']
  else if c = '\x08' then ['\\', 'b']
  else if c = '\x0c' then ['\\', 'f']
  else if c = '\n' then ['\\', 'n']
  else if c = '\r' then ['\\', 'r']
  else if c = '\t' then ['\\', 't']
  else if c.toNat < 32 then "\\u" ++ hexadecimal 4 c.toNat
  else [c]

def quoted (t : Text) : Text := '"' :: t.flatMap escapeChar ++ ['"']

mutual

def compact : Json → Text
  | .null => "null"
  | .boolean b => if b then "true" else "false"
  | .number written => written
  | .string t => quoted t
  | .array items => '[' :: Text.joinWith [','] (compactItems items) ++ [']']
  | .object members => '\x7b' :: Text.joinWith [','] (compactMembers members) ++ ['\x7d']

def compactItems : List Json → List Text
  | [] => []
  | v :: vs => v.compact :: compactItems vs

def compactMembers : List (Text × Json) → List Text
  | [] => []
  | (key, v) :: vs => (quoted key ++ ':' :: v.compact) :: compactMembers vs

end

/-- A line end and the blanks at the start of a line at a depth. -/
def newline (depth : Nat) : Text := '\n' :: List.replicate (2 * depth) ' '

/-- Parts between brackets, each on a line of its own. -/
def block (opening closing : Char) (depth : Nat) (parts : List Text) : Text :=
  if parts.isEmpty then [opening, closing]
  else
    opening :: newline (depth + 1) ++ Text.joinWith (',' :: newline (depth + 1)) parts ++
      newline depth ++ [closing]

mutual

/-- The value over several lines, inside `depth` others. -/
def indented (depth : Nat) : Json → Text
  | .array items => block '[' ']' depth (indentedItems (depth + 1) items)
  | .object members => block '\x7b' '\x7d' depth (indentedMembers (depth + 1) members)
  | .null => "null"
  | .boolean b => if b then "true" else "false"
  | .number written => written
  | .string t => quoted t

def indentedItems (depth : Nat) : List Json → List Text
  | [] => []
  | v :: vs => v.indented depth :: indentedItems depth vs

def indentedMembers (depth : Nat) : List (Text × Json) → List Text
  | [] => []
  | (key, v) :: vs => (quoted key ++ ": " ++ v.indented depth) :: indentedMembers depth vs

end

def pretty (v : Json) : Text := v.indented 0

def member? (key : Text) : Json → Option Json
  | .object members => members.lookup key
  | _ => none

def string? : Json → Option Text
  | .string t => some t
  | _ => none

end Json

end MarkupCompletion
