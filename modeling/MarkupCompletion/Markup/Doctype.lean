import MarkupCompletion.Markup.Quote

/-
  Document type declarations.

  The body of a declaration, the text between `<!DOCTYPE` and `>`, is a row of
  bare words and quoted strings. Reading it is lenient: an unfinished quoted
  string runs to the end, unknown words are passed over, and what is missing
  stays absent. `Doctype.written` is the declaration a doctype stands for.
-/

namespace MarkupCompletion

/-- A document type: the root element it names and its two identifiers. -/
structure Doctype where
  root : Text := []
  publicId : Option Text := none
  systemId : Option Text := none
  deriving DecidableEq, Repr

/-- A piece of the body of a declaration. -/
inductive Word where
  | bare (text : Text)
  | quoted (text : Text)
  deriving DecidableEq, Repr

def Word.literal? : Word → Option Text
  | .bare _ => none
  | .quoted t => some t

def isBare (c : Char) : Bool := !isBlank c && !isQuote c

theorem length_dropWhile_le {α : Type} (p : α → Bool) (l : List α) :
    (l.dropWhile p).length ≤ l.length := by
  induction l with
  | nil => exact Nat.le_refl _
  | cons a l ih =>
    rw [List.dropWhile_cons]
    split
    · exact Nat.le_succ_of_le ih
    · exact Nat.le_refl _

namespace Doctype

/-- The bare words and quoted strings of a body, in order. -/
def words (body : Text) : List Word :=
  match h : body.dropWhile isBlank with
  | [] => []
  | c :: cs =>
    have shorter : cs.length < body.length := by
      have := length_dropWhile_le isBlank body
      rw [h, List.length_cons] at this
      omega
    if isQuote c then
      have := length_dropWhile_le (fun x => x != c) cs
      have : ((cs.dropWhile fun x => x != c).drop 1).length < body.length := by
        rw [List.length_drop]
        omega
      .quoted (cs.takeWhile fun x => x != c) :: words ((cs.dropWhile fun x => x != c).drop 1)
    else
      have := length_dropWhile_le isBare cs
      .bare (c :: cs.takeWhile isBare) :: words (cs.dropWhile isBare)
termination_by body.length

/-- Reads the identifiers that follow the root element. `PUBLIC` takes the next
two words and `SYSTEM` the next one; of those taken, the quoted ones count. -/
def readIds (d : Doctype) : List Word → Doctype
  | [] => d
  | .quoted _ :: rest => readIds d rest
  | .bare keyword :: rest =>
    if Text.sameAscii keyword "PUBLIC" then
      let d := { d with
        publicId := (rest[0]?.bind Word.literal?) <|> d.publicId
        systemId := (rest[1]?.bind Word.literal?) <|> d.systemId }
      readIds d (rest.drop 2)
    else if Text.sameAscii keyword "SYSTEM" then
      readIds { d with systemId := (rest[0]?.bind Word.literal?) <|> d.systemId } (rest.drop 1)
    else
      readIds d rest
termination_by ws => ws.length
decreasing_by all_goals simp only [List.length_drop, List.length_cons]; omega

/-- The doctype that the body of a declaration describes. A first word that is
quoted names no root element. -/
def parse (body : Text) : Doctype :=
  match words body with
  | [] => {}
  | .quoted _ :: rest => readIds {} rest
  | .bare root :: rest => readIds { root } rest

/-- The formal public identifier, which an empty one is not. -/
def fpi (d : Doctype) : Option Text := d.publicId.filter (fun p => !p.isEmpty)

/-- An identifier in double quotes, after a blank. -/
def quotedId (id : Text) : Text := " \"" ++ id ++ "\""

/-- The identifiers as they stand in a declaration. -/
def writtenIds (d : Doctype) : Text :=
  match d.publicId, d.systemId with
  | some p, some s => " PUBLIC" ++ quotedId p ++ quotedId s
  | some p, none => " PUBLIC" ++ quotedId p
  | none, some s => " SYSTEM" ++ quotedId s
  | none, none => []

def body (d : Doctype) : Text := d.root ++ d.writtenIds

def written (d : Doctype) : Text := "<!DOCTYPE " ++ d.body ++ ">"

end Doctype

end MarkupCompletion
