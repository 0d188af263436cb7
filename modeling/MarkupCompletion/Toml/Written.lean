import MarkupCompletion.Toml.Quoted
import MarkupCompletion.Toml.Assembly
import MarkupCompletion.Toml.Statement

/-
  Statements as they are written: one line each, with an empty line before every
  header but the first. An array of several items takes a line for each.
-/

namespace MarkupCompletion

namespace Toml

def writtenKey (key : Text) : Text :=
  if !key.isEmpty && key.all isKeyChar then key else quoted key

def writtenPath (path : List Text) : Text := Text.joinWith ['.'] (path.map writtenKey)

def writtenInteger (n : Int) : Text :=
  if n < 0 then '-' :: decimal n.natAbs else decimal n.natAbs

def arrayLine (item : Text) : Text := "    " ++ item ++ ",\n"

def writtenArray : List Text → Text
  | [] => "[]"
  | [item] => "[" ++ item ++ "]"
  | items => "[\n" ++ items.flatMap arrayLine ++ "]"

mutual

def Value.written : Value → Text
  | .string t => quoted t
  | .integer n => writtenInteger n
  | .float written | .unheld written => written
  | .boolean b => if b then "true" else "false"
  | .moment written => written
  | .array _ items => writtenArray (writtenItems items)
  | .table _ entries =>
    if entries.isEmpty then ['\x7b', '\x7d']
    else "\x7b " ++ Text.joinWith ", " (writtenEntries entries) ++ " \x7d"

def writtenItems : List Value → List Text
  | [] => []
  | v :: vs => v.written :: writtenItems vs

def writtenEntries : List (Text × Value) → List Text
  | [] => []
  | (key, v) :: es => (writtenKey key ++ " = " ++ v.written) :: writtenEntries es

end

def Statement.written : Statement → Text
  | .header path => "[" ++ writtenPath path ++ "]\n"
  | .arrayHeader path => "[[" ++ writtenPath path ++ "]]\n"
  | .pair path v => writtenPath path ++ " = " ++ v.written ++ "\n"

def Statement.isHeader : Statement → Bool
  | .pair .. => false
  | _ => true

def writtenRest (statements : List Statement) : Text :=
  statements.flatMap fun s => if s.isHeader then '\n' :: s.written else s.written

def write : List Statement → Text
  | [] => []
  | s :: statements => s.written ++ writtenRest statements

end Toml

end MarkupCompletion
