import MarkupCompletion.Toml.Number
import MarkupCompletion.Toml.Moment

/-
  The values of a TOML document that stand without quotes or brackets: truth
  values, numbers, dates and times.
-/

namespace MarkupCompletion

namespace Toml

/-- Whether a character can belong to a value that stands alone: it is none of
those that separate the parts of a document. -/
def isAtomChar (c : Char) : Bool :=
  !(isSpace c || c == '\n' || c == '\r' || c == '#' || c == '=' || c == ',' || c == '[' || c == ']'
    || c == '\x7b' || c == '\x7d')

def ofAtom? (t : Text) : Option Value :=
  if t = "true" then some (.boolean true)
  else if t = "false" then some (.boolean false)
  else number? t <|> if isMoment t then some (.moment t) else none

/-- Reads a value that stands alone. A blank may join a date and a time. -/
def readAtom (t : Text) : Option (Value × Text) :=
  let word := t.takeWhile isAtomChar
  let rest := t.dropWhile isAtomChar
  match skipDate word, rest with
  | some [], ' ' :: r =>
    let time := r.takeWhile isAtomChar
    if time.isEmpty then (ofAtom? word).map fun v => (v, rest)
    else (ofAtom? (word ++ ' ' :: time)).map fun v => (v, r.dropWhile isAtomChar)
  | _, _ => (ofAtom? word).map fun v => (v, rest)

end Toml

end MarkupCompletion
