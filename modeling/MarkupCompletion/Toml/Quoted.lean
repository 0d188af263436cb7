import MarkupCompletion.Toml.Gap
import MarkupCompletion.Text.Digits

/-
  Strings in a TOML document.

  A string stands in double quotes, where a backslash escapes, or in single
  quotes, where nothing does; three quotes in place of one let it hold line
  ends. `readString` reads all four forms. `quoted` writes the first of them in
  which the string can stand as it is, and escapes only where none is.
-/

namespace MarkupCompletion

namespace Toml

/-- The character that a letter after a backslash stands for. -/
def unescape? (c : Char) : Option Char :=
  if c = 'b' then some '\x08'
  else if c = 'e' then some '\x1b'
  else if c = 't' then some '\t'
  else if c = 'n' then some '\n'
  else if c = 'f' then some '\x0c'
  else if c = 'r' then some '\r'
  else if c = '"' then some '"'
  else if c = '\\' then some '\\'
  else none

/-- Reads a code point in `width` hexadecimal digits. -/
def readCode (width : Nat) (t : Text) : Option (Char × Text) :=
  if t.length < width then none
  else ((natOfDigits? 16 (t.take width)).bind charOfCode?).map fun c => (c, t.drop width)

/-- Reads what follows a backslash, up to the end of the escape. -/
def readEscape : Text → Option (Char × Text)
  | [] => none
  | c :: r =>
    if c = 'x' then readCode 2 r
    else if c = 'u' then readCode 4 r
    else if c = 'U' then readCode 8 r
    else (unescape? c).map fun x => (x, r)

theorem length_readCode {width : Nat} {t r : Text} {c : Char}
    (h : readCode width t = some (c, r)) : r.length ≤ t.length := by
  unfold readCode at h
  split at h
  · cases h
  · obtain ⟨x, -, e⟩ := Option.map_eq_some_iff.mp h
    obtain ⟨-, rfl⟩ := Prod.mk.inj e
    simp

theorem length_readEscape {t r : Text} {c : Char} (h : readEscape t = some (c, r)) :
    r.length < t.length := by
  cases t with
  | nil => cases h
  | cons x xs =>
    rw [List.length_cons]
    apply Nat.lt_succ_of_le
    simp only [readEscape] at h
    split at h
    · exact length_readCode h
    · split at h
      · exact length_readCode h
      · split at h
        · exact length_readCode h
        · obtain ⟨y, -, e⟩ := Option.map_eq_some_iff.mp h
          obtain ⟨-, rfl⟩ := Prod.mk.inj e
          exact Nat.le_refl _

/-- Reads a string in double quotes, after the first. -/
def readBasic (t : Text) : Option (Text × Text) :=
  match t with
  | [] => none
  | c :: r =>
    if c = '"' then some ([], r)
    else if c = '\\' then
      match h : readEscape r with
      | none => none
      | some (x, r') =>
        have := length_readEscape h
        (readBasic r').map fun p => (x :: p.1, p.2)
    else if isControl c then none
    else (readBasic r).map fun p => (c :: p.1, p.2)
termination_by t.length
decreasing_by all_goals simp only [List.length_cons]; omega

/-- Reads a string in single quotes, after the first. -/
def readLiteral : Text → Option (Text × Text)
  | [] => none
  | c :: r =>
    if c = '\'' then some ([], r)
    else if isControl c then none
    else (readLiteral r).map fun p => (c :: p.1, p.2)

/-- The end of a string in triple quotes at the start of a text: up to two quotes
before the closing three belong to the string. -/
def closing? (quote : Char) (t : Text) : Option (Text × Text) :=
  let run := min 5 (t.takeWhile (· == quote)).length
  if run < 3 then none else some (List.replicate (run - 3) quote, t.drop run)

/-- Whether a character may stand in triple quotes, before a given text. -/
def isMultiline (c : Char) (r : Text) : Bool :=
  c == '\n' || (if c = '\r' then r.head? == some '\n' else !isControl c)

/-- The text after the blanks and line ends at its start. -/
def skipBlankLines : Text → Option Text
  | [] => some []
  | c :: r =>
    if isSpace c || c == '\n' then skipBlankLines r
    else if c = '\r' then if r.head? = some '\n' then skipBlankLines r else none
    else some (c :: r)

/-- For a backslash that ends a line: the text from the next line on that holds
something, or `none` if the backslash does not end its line. -/
def joinLines (t : Text) : Option (Option Text) :=
  match skipSpaces t with
  | '\n' :: r => some (skipBlankLines r)
  | '\r' :: r => some (skipBlankLines ('\r' :: r))
  | _ => none

/-- Reads a string in triple double quotes, after them, for a text of at most
`fuel` characters. -/
def readMultilineBasic : Nat → Text → Option (Text × Text)
  | 0, _ => none
  | _, [] => none
  | fuel + 1, c :: r =>
    match closing? '"' (c :: r) with
    | some e => some e
    | none =>
      if c = '\\' then
        match joinLines r with
        | some rest => rest.bind (readMultilineBasic fuel)
        | none => do
          let (x, r') ← readEscape r
          (readMultilineBasic fuel r').map fun p => (x :: p.1, p.2)
      else if isMultiline c r then
        (readMultilineBasic fuel r).map fun p => (c :: p.1, p.2)
      else none

/-- Reads a string in triple single quotes, after them. -/
def readMultilineLiteral : Text → Option (Text × Text)
  | [] => none
  | c :: r =>
    match closing? '\'' (c :: r) with
    | some e => some e
    | none =>
      if isMultiline c r then (readMultilineLiteral r).map fun p => (c :: p.1, p.2) else none

/-- Reads a string in any of the four forms. A line end right after triple quotes
is not part of it. -/
def readString (t : Text) : Option (Text × Text) :=
  match t with
  | '"' :: '"' :: '"' :: r => readMultilineBasic (r.length + 1) (dropNewline r)
  | '"' :: r => readBasic r
  | '\'' :: '\'' :: '\'' :: r => readMultilineLiteral (dropNewline r)
  | '\'' :: r => readLiteral r
  | _ => none

/-- The four forms of a string. -/
inductive Form where
  | basic
  | literal
  | multilineBasic
  | multilineLiteral
  deriving DecidableEq, Repr

/-- Whether a character occurs three times in a row. -/
def hasTriple (c : Char) : Text → Bool
  | [] => false
  | x :: r => (x == c && r.take 2 == [c, c]) || hasTriple c r

/-- The form in which a string is written: where nothing needs an escape, the
first that can hold it, and else one in double quotes. -/
def formOf (t : Text) : Form :=
  let codes := t.any fun c => isControl c && c != '\n'
  let backslash := t.contains '\\'
  let lines := t.contains '\n'
  -- a tab alone is no reason to leave double quotes, where it is escaped
  if !codes && !backslash && !lines && !t.contains '"' then .basic
  else if !codes && !lines && !t.contains '\'' then .literal
  else if !codes && !backslash && !hasTriple '"' t then .multilineBasic
  else if !codes && !hasTriple '\'' t then .multilineLiteral
  else if lines then .multilineBasic
  else .basic

/-- A character inside double quotes; those themselves apart. -/
def escapeChar (lines : Bool) (c : Char) : Text :=
  if c = '\x08' then ['\\', 'b']
  else if c = '\t' then ['\\', 't']
  else if c = '\n' then if lines then [c] else ['\\', 'n']
  else if c = '\x0c' then ['\\', 'f']
  else if c = '\r' then ['\\', 'r']
  else if c = '\\' then ['\\', '\\']
  else if isControl c then "\\u" ++ (hexadecimal 4 c.toNat).map Char.toUpper
  else [c]

/-- A string inside double quotes, after `run` quotes that stand as they are. In
triple quotes two in a row may stand so, and else none. -/
def escape (lines : Bool) : Nat → Text → Text
  | _, [] => []
  | run, c :: r =>
    if c = '"' then
      if run < (if lines then 2 else 0) then c :: escape lines (run + 1) r
      else '\\' :: c :: escape lines 0 r
    else escapeChar lines c ++ escape lines 0 r

/-- A string as it is written. In triple quotes a string of several lines starts
on a line of its own. -/
def quoted (t : Text) : Text :=
  let newline : Text := if t.contains '\n' then ['\n'] else []
  match formOf t with
  | .basic => "\"" ++ escape false 0 t ++ "\""
  | .literal => "'" ++ t ++ "'"
  | .multilineBasic => "\"\"\"" ++ newline ++ escape true 0 t ++ "\"\"\""
  | .multilineLiteral => "'''" ++ newline ++ t ++ "'''"

end Toml

end MarkupCompletion
