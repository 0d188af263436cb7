import MarkupCompletion.Proofs.Document.Ended

/-
  The offsets of a document stay within its texts.

  An update cuts texts at offsets that come from checkpoints of an older text, and reading
  measures how far it has come since the newest checkpoint. Neither goes wrong, whatever was
  done to the document before: a checkpoint is the scan of inputs that still stand
  (`replay_of_suffix`), so none lies after what was read (`newestOffset_replay_le`), and what an
  update keeps begins the text that it is brought up to date with (`replayed_update`).
-/

namespace MarkupCompletion

namespace Scan

variable {v : VoidElements} {interval : Nat}

/-- Whether reading a text measures forward alone: at the end of each character what was read
is at or after the newest checkpoint. -/
def MeasuresForward (v : VoidElements) (interval : Nat) : Text → Scan → List Scan → Prop
  | [], _, _ => True
  | c :: cs, s, checkpoints =>
    newestOffset checkpoints ≤ (s.step v c).consumed ∧
      MeasuresForward v interval cs (s.step v c) (noted interval (s.step v c) checkpoints)

theorem newestOffset_replay_le (v : VoidElements) (interval : Nat) (is : List Input) :
    newestOffset (replay v interval is).2 ≤ (replay v interval is).1.consumed := by
  cases hcheckpoints : (replay v interval is).2 with
  | nil => exact Nat.zero_le _
  | cons cp rest =>
    have hsuffix : cp :: rest <:+ (replay v interval is).2 := by rw [hcheckpoints]
    obtain ⟨p, c, hp, hreplay⟩ := replay_of_suffix hsuffix
    calc cp.consumed
        = Text.size (Input.text (p ++ [.char c])) := by
          rw [← consumed_replay (v := v) interval, hreplay]
      _ ≤ Text.size (Input.text is) := Text.size_le_of_isPrefix (Input.text_prefix hp)
      _ = (replay v interval is).1.consumed := (consumed_replay interval is).symm

theorem replay_measuresForward (is : List Input) (t : Text) :
    MeasuresForward v interval t (replay v interval is).1 (replay v interval is).2 := by
  induction t generalizing is with
  | nil => exact trivial
  | cons c t ih =>
    have hrest := ih (is ++ [.char c])
    rw [replay_concat, enter] at hrest
    refine ⟨?_, hrest⟩
    calc newestOffset (replay v interval is).2
        ≤ (replay v interval is).1.consumed := newestOffset_replay_le v interval is
      _ ≤ ((replay v interval is).1.step v c).consumed := Nat.le_add_right _ _

end Scan

namespace Document

/-- Whether reading a text after what a document has read measures forward alone. -/
def MeasuresForward (d : Document) (chunk : Text) : Prop :=
  d.scan.MeasuresForward d.voids d.interval chunk d.checkpoints

variable {v : VoidElements} {interval : Nat}

theorem replayed_measuresForward (is : List Input) (chunk : Text) :
    (replayed v interval is).MeasuresForward chunk := Scan.replay_measuresForward is chunk

theorem replayed_consumed (is : List Input) :
    (replayed v interval is).scan.consumed = Text.size (replayed v interval is).text :=
  Scan.consumed_replay _ is

/-- **No offset of a document ever leaves its text.** After any moves, what was read counts the
bytes of the text, and reading anything on measures forward alone. Going back cuts the text
between two characters, at what is then counted as read. An update cuts the new text at the
last boundary at or before the cursor, resumes at a boundary of what that leaves, and from there
measures forward alone. -/
theorem performAll_in_range (v : VoidElements) (interval : Nat) (moves : List Move) :
    let d := (new v interval).performAll moves
    d.scan.consumed = Text.size d.text ∧
    (∀ chunk, d.MeasuresForward chunk) ∧
    (∀ offset, d.text.IsBoundary (d.rollBack offset).scan.consumed ∧
      (d.rollBack offset).scan.consumed = Text.size (d.rollBack offset).text) ∧
    ∀ text cursor,
      let clamped := Text.floorBoundary text cursor
      let target := Text.upTo text cursor
      let resumed := (d.update text cursor).2.resumedAt
      IsGreatest {n | text.IsBoundary n ∧ n ≤ min cursor (Text.size text)} clamped ∧
      Text.size target = clamped ∧
      resumed ≤ Text.size target ∧ target.IsBoundary resumed ∧
      (d.kept target).MeasuresForward (Text.beyond target resumed) := by
  intro d
  have hd : d = replayed v interval ((new v interval).inputs [] moves) :=
    replayed_performAll v interval [] moves
  generalize (new v interval).inputs [] moves = is at hd
  rw [hd]
  refine ⟨replayed_consumed is, replayed_measuresForward is, ?_, ?_⟩
  · intro offset
    obtain ⟨p, hp, -, -, hback⟩ := replayed_rollBack v interval is offset
    rw [hback]
    exact ⟨⟨_, Input.text_prefix hp, (replayed_consumed p).symm⟩, replayed_consumed p⟩
  · intro text cursor clamped target resumed
    obtain ⟨p, -, htarget, -, hresumed, -⟩ := replayed_update v interval is text cursor
    obtain ⟨q, -, -, -, hkept⟩ := replayed_kept v interval is target
    have hboundary : target.IsBoundary resumed := ⟨_, htarget, hresumed.symm⟩
    refine ⟨Text.isGreatest_size_upTo text cursor, rfl, hboundary.le_size, hboundary, ?_⟩
    rw [hkept]
    exact replayed_measuresForward q _

end Document

end MarkupCompletion
