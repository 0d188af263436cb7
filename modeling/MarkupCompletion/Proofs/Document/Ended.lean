import MarkupCompletion.Proofs.Document.History

/-
  Documents whose end is marked.

  A mark of the end closes every element in the scan and leaves the text and the
  checkpoints as they are. So the text alone does not say what a document is; the
  inputs that stand do, marks included (`replayed_performAll`). An update takes
  inputs back and reads on from those it kept: with no mark among them, it leaves
  the text read afresh (`update_reads_on_from_kept`). A mark is taken back by an
  update that goes behind it only, not by one that goes on at the end or goes back
  to a checkpoint taken after the mark (`update_after_mark_is_not_afresh`).
-/

namespace MarkupCompletion

namespace Document

variable {v : VoidElements} {interval : Nat}

/-- What an editor does to a document. -/
inductive Move where
  | edit (e : Edit)
  /-- the end of the document is marked -/
  | finish
  deriving DecidableEq, Repr

def perform (d : Document) : Move → Document
  | .edit e => d.apply e
  | .finish => d.finish

/-- The document after a run of moves. -/
def performAll (d : Document) (moves : List Move) : Document := moves.foldl perform d

/-- The inputs that stand after a move. An update takes back what was given after the
byte at which it resumes. -/
def inputsAfter (d : Document) (is : List Input) : Move → List Input
  | .edit (.append chunk) => is ++ Input.ofText chunk
  | .edit (.update text cursor) =>
    Input.keep is (d.update text cursor).2.resumedAt ++
      Input.ofText (Text.beyond (Text.upTo text cursor) (d.update text cursor).2.resumedAt)
  | .edit .reset => []
  | .finish => is ++ [.ending]

/-- The inputs that stand after a run of moves. -/
def inputs (d : Document) (is : List Input) : List Move → List Input
  | [] => is
  | m :: moves => (d.perform m).inputs (d.inputsAfter is m) moves

theorem replayed_text (is : List Input) : (replayed v interval is).text = Input.text is := rfl

theorem replayed_scan (is : List Input) :
    (replayed v interval is).scan = Scan.readInputs v {} is := Scan.replay_fst _ is

theorem replayed_perform (v : VoidElements) (interval : Nat) (is : List Input) (m : Move) :
    (replayed v interval is).perform m =
      replayed v interval ((replayed v interval is).inputsAfter is m) := by
  cases m with
  | finish => exact replayed_finish is
  | edit e =>
    cases e with
    | append chunk => exact replayed_feed is chunk
    | reset => rfl
    | update text cursor =>
      obtain ⟨p, -, -, hkeep, hresumed, hupdate⟩ :=
        replayed_update v interval is text cursor
      simp only [inputsAfter, hresumed]
      rw [← hkeep]
      exact hupdate

/-- A document is at all times what the inputs that stand make of it. -/
theorem replayed_performAll (v : VoidElements) (interval : Nat) (is : List Input)
    (moves : List Move) :
    (replayed v interval is).performAll moves =
      replayed v interval ((replayed v interval is).inputs is moves) := by
  induction moves generalizing is with
  | nil => rfl
  | cons m moves ih =>
    have hm := replayed_perform v interval is m
    rw [performAll, List.foldl_cons, inputs, hm]
    exact ih _

/-- **Right after an update a document reads on from the inputs that it kept.** Its
text is the text cut at the cursor. What it kept are inputs whose characters begin
that text, and its scan is what they make, marks included, read on to the cursor:
with no mark among them, it is the text read afresh. -/
theorem update_reads_on_from_kept (v : VoidElements) (interval : Nat) (moves : List Move)
    (text : Text) (cursor : Nat) :
    let d := (new v interval).performAll moves
    let after := (d.update text cursor).1
    let resumed := (d.update text cursor).2.resumedAt
    let kept := Input.keep ((new v interval).inputs [] moves) resumed
    after.text = Text.upTo text cursor ∧
    Input.text kept = Text.upTo (Text.upTo text cursor) resumed ∧
    after.scan =
      (Scan.readInputs v {} kept).feed v (Text.beyond (Text.upTo text cursor) resumed) ∧
    (Input.ending ∉ kept → after.scan = Scan.feed v {} (Text.upTo text cursor)) := by
  intro d after resumed kept
  have hd : d = replayed v interval ((new v interval).inputs [] moves) :=
    replayed_performAll v interval [] moves
  obtain ⟨p, -, htarget, hkeep, hresumed, hupdate⟩ :=
    replayed_update v interval ((new v interval).inputs [] moves) text cursor
  rw [← hd] at hresumed hupdate
  change resumed = Text.size (Input.text p) at hresumed
  rw [← hresumed] at hkeep hupdate
  change p = kept at hkeep
  change after = _ at hupdate
  subst hkeep
  have htext : Input.text kept = Text.upTo (Text.upTo text cursor) resumed := by
    rw [hresumed, Text.upTo_size_of_isPrefix htarget]
  have hjoin : Input.text kept ++ Text.beyond (Text.upTo text cursor) resumed =
      Text.upTo text cursor := by
    rw [hresumed, Text.append_beyond_of_isPrefix htarget]
  have hscan : after.scan =
      (Scan.readInputs v {} kept).feed v (Text.beyond (Text.upTo text cursor) resumed) := by
    rw [hupdate, replayed_scan, Scan.readInputs_append, Scan.readInputs_ofText]
  refine ⟨?_, htext, hscan, ?_⟩
  · rw [hupdate, replayed_text, Input.text_append, Input.text_ofText, hjoin]
  · intro hmark
    rw [hscan, ← Input.ofText_text hmark, Scan.readInputs_ofText, ← Scan.feed_append,
      hjoin]

theorem update_reads_on_from_before_mark :
    let moves := [.edit (.append "<a><b>"), .finish]
    let after := (((new .html 3).performAll moves).update "<a><c>x" 6).1
    Input.ending ∈ (new .html 3).inputs [] moves ∧
    Input.ending ∉ Input.keep ((new .html 3).inputs [] moves) 3 ∧
    after.scan = Scan.feed .html {} "<a><c>" ∧ after.scan.stack = ["a", "c"] := by
  intro moves after
  have hmark : Input.ending ∉ Input.keep ((new .html 3).inputs [] moves) 3 := by decide +kernel
  obtain ⟨-, -, -, hfresh⟩ := update_reads_on_from_kept .html 3 moves "<a><c>x" 6
  have hresumed : (((new .html 3).performAll moves).update "<a><c>x" 6).2.resumedAt = 3 := by
    decide +kernel
  rw [hresumed] at hfresh
  refine ⟨by decide +kernel, hmark, ?_, by decide +kernel⟩
  exact hfresh hmark

/-- What a mark closed stays closed when the update goes on at the end, and when it
goes back to a checkpoint taken after the mark. -/
theorem update_after_mark_is_not_afresh :
    let d := (new .html 4096).performAll [.edit (.append "<a>"), .finish]
    let d' := (new .html 1).performAll [.edit (.append "<a>"), .finish, .edit (.append "xy")]
    (d.update "<a>" 3).1.scan ≠ Scan.feed .html {} "<a>" ∧
    (d'.update "<a>xz" 5).2.resumedAt = 4 ∧
    (d'.update "<a>xz" 5).1.scan ≠ Scan.feed .html {} "<a>xz" := by
  decide +kernel

end Document

end MarkupCompletion
