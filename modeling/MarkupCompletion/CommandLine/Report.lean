import MarkupCompletion.CommandLine.Arguments
import MarkupCompletion.Completion.Exchange
import MarkupCompletion.Markup.Cursor

/-
  Candidates as the program writes them: a line for each with tabs between its
  parts, or a JSON object that also tells what kind of position they are for.
-/

namespace MarkupCompletion

def Candidate.line (c : Candidate) : Text :=
  c.text ++ '\t' :: c.category.name ++ '\t' :: c.description

def plainReport (candidates : List Candidate) : Text :=
  Text.joinWith ['\n'] (candidates.map Candidate.line)

def jsonReport (cursor : Cursor) (candidates : List Candidate) : Json :=
  .object
    [("context", .string cursor.kind), ("prefix", .string cursor.typed),
     ("candidates", Candidate.listToJson candidates)]

def report (format : Format) (cursor : Cursor) (candidates : List Candidate) : Text :=
  match format with
  | .plain => plainReport candidates
  | .json => (jsonReport cursor candidates).pretty

end MarkupCompletion
