import MarkupCompletion.Proofs.Document.Checkpoints

/-
  A document under edit is the document read at once.

  `Document.replayed v interval is` is the document that was given the inputs `is`,
  and `Document.fresh v interval t` is a new document that read `t` in one piece.
  Whatever is done to a document, it stays the replayed document of some inputs,
  and as long as its end is not marked the fresh document of its own text: scan,
  text and checkpoints alike.

    1. going back takes back the last inputs (`replayed_rollBack`): a checkpoint
       carries all that the inputs before it left;
    2. bringing it up to date keeps inputs whose characters begin the new text and
       reads the rest of it (`replayed_update`), so without marks it reads that
       text (`fresh_update`);
    3. so every run of edits ends at the fresh document of the text it leaves
       (`fresh_run`).
-/

namespace MarkupCompletion

namespace Document

variable {v : VoidElements} {interval : Nat}

/-- The document that has read a text in one piece. -/
def fresh (v : VoidElements) (interval : Nat) (t : Text) : Document :=
  (new v interval).feed t

theorem fresh_eq (t : Text) : fresh v interval t =
    { voids := v
      interval := max interval 1
      scan := (Scan.history v (max interval 1) t).1
      text := t
      checkpoints := (Scan.history v (max interval 1) t).2 } := rfl

theorem fresh_text (t : Text) : (fresh v interval t).text = t := rfl

theorem fresh_scan (t : Text) : (fresh v interval t).scan = Scan.feed v {} t :=
  Scan.history_fst _ t

theorem fresh_feed (a b : Text) : (fresh v interval a).feed b = fresh v interval (a ++ b) := by
  simp only [fresh_eq, feed, Scan.history_append]

theorem fresh_reset (t : Text) : (fresh v interval t).reset = fresh v interval [] := rfl

/-! ## Inputs -/

/-- The document that has been given inputs one after the other. -/
def replayed (v : VoidElements) (interval : Nat) (is : List Input) : Document :=
  { voids := v
    interval := max interval 1
    scan := (Scan.replay v (max interval 1) is).1
    text := Input.text is
    checkpoints := (Scan.replay v (max interval 1) is).2 }

theorem fresh_eq_replayed (t : Text) :
    fresh v interval t = replayed v interval (Input.ofText t) := by
  rw [fresh_eq, Scan.history_eq_replay, replayed, Input.text_ofText]

theorem replayed_feed (is : List Input) (t : Text) :
    (replayed v interval is).feed t = replayed v interval (is ++ Input.ofText t) := by
  simp only [replayed, feed, Scan.replay_append_ofText, Input.text_append, Input.text_ofText]

theorem replayed_finish (is : List Input) :
    (replayed v interval is).finish = replayed v interval (is ++ [.ending]) := by
  simp only [replayed, finish, Scan.replay_concat, Scan.enter, Input.text_append, Input.text,
    List.append_nil]

/-! ## Going back -/

/-- Going back to an offset takes back all that was given after a character that
ends at or before it. -/
theorem replayed_rollBack (v : VoidElements) (interval : Nat) (is : List Input) (offset : Nat) :
    ∃ p, p <+: is ∧ Text.size (Input.text p) ≤ offset ∧
      p = Input.upTo is (Text.size (Input.text p)) ∧
      (replayed v interval is).rollBack offset = replayed v interval p := by
  have hsuf : (Scan.replay v (max interval 1) is).2.dropWhile (fun s => offset < s.consumed) <:+
      (Scan.replay v (max interval 1) is).2 := List.dropWhile_suffix _
  cases hkept : (Scan.replay v (max interval 1) is).2.dropWhile
      (fun s => offset < s.consumed) with
  | nil =>
    -- no checkpoint is left, so reading starts over
    refine ⟨[], List.nil_prefix, Nat.zero_le offset, (Input.upTo_zero is).symm, ?_⟩
    simp only [rollBack, replayed, hkept, List.head?_nil, Option.getD_none]
    rw [show Text.upTo (Input.text is) 0 = [] from Text.upTo_append_size [] (Input.text is)]
    rfl
  | cons cp rest =>
    rw [hkept] at hsuf
    obtain ⟨p, c, hp, hreplay⟩ := Scan.replay_of_suffix hsuf
    have hsize : Text.size (Input.text (p ++ [.char c])) = cp.consumed := by
      rw [← Scan.consumed_replay (v := v) (max interval 1) (p ++ [Input.char c]), hreplay]
    have hle : ¬ offset < cp.consumed := by
      have := List.head_dropWhile_not (fun s : Scan => decide (offset < s.consumed))
        (l := (Scan.replay v (max interval 1) is).2) (by rw [hkept]; exact List.cons_ne_nil _ _)
      simpa [hkept] using this
    refine ⟨p ++ [.char c], hp, by omega, (Input.upTo_of_prefix hp).symm, ?_⟩
    simp only [rollBack, replayed, hkept, List.head?_cons, Option.getD_some, hreplay]
    rw [← hsize, Text.upTo_size_of_isPrefix (Input.text_prefix hp)]

/-! ## Bringing up to date -/

/-- What is kept of a document when it is brought up to date with `target`. -/
def kept (d : Document) (target : Text) : Document :=
  if Text.commonSize d.text target < Text.size d.text then
    d.rollBack (Text.commonSize d.text target)
  else d

theorem update_eq (d : Document) (text : Text) (cursor : Nat) :
    (d.update text cursor).1 =
      (d.kept (Text.upTo text cursor)).feed
        (Text.beyond (Text.upTo text cursor)
          (d.kept (Text.upTo text cursor)).scan.consumed) := rfl

theorem resumedAt_eq (d : Document) (text : Text) (cursor : Nat) :
    (d.update text cursor).2.resumedAt = (d.kept (Text.upTo text cursor)).scan.consumed := rfl

/-- What is kept are inputs whose characters begin the target: all that were given,
or those up to an earlier character. -/
theorem replayed_kept (v : VoidElements) (interval : Nat) (is : List Input) (target : Text) :
    ∃ p, p <+: is ∧ Input.text p <+: target ∧
      p = Input.keep is (Text.size (Input.text p)) ∧
      (replayed v interval is).kept target = replayed v interval p := by
  have hleft := Text.commonPrefix_prefix_left (Input.text is) target
  have hright := Text.commonPrefix_prefix_right (Input.text is) target
  have htext : (replayed v interval is).text = Input.text is := rfl
  simp only [kept, htext, Text.commonSize_eq]
  split
  · next hless =>
    obtain ⟨p, hp, hle, hup, hback⟩ := replayed_rollBack v interval is
      (Text.size (Text.commonPrefix (Input.text is) target))
    refine ⟨p, hp, ?_, ?_, hback⟩
    · exact (Text.prefix_of_size_le (Input.text_prefix hp) hleft hle).trans hright
    · rw [Input.keep, if_pos (by omega)]
      exact hup
  · next hall =>
    -- nothing that was read has changed
    have hon : Input.text is <+: target := by
      by_contra hno
      exact hall (Text.size_commonPrefix_lt_iff.2 hno)
    exact ⟨is, List.prefix_rfl, hon, by rw [Input.keep, if_neg (Nat.lt_irrefl _)], rfl⟩

/-- Brought up to date with a text, a document has read that text up to the cursor,
after inputs that it kept. -/
theorem replayed_update (v : VoidElements) (interval : Nat) (is : List Input) (text : Text)
    (cursor : Nat) :
    ∃ p, p <+: is ∧ Input.text p <+: Text.upTo text cursor ∧
      p = Input.keep is (Text.size (Input.text p)) ∧
      ((replayed v interval is).update text cursor).2.resumedAt = Text.size (Input.text p) ∧
      ((replayed v interval is).update text cursor).1 =
        replayed v interval
          (p ++ Input.ofText (Text.beyond (Text.upTo text cursor) (Text.size (Input.text p)))) := by
  obtain ⟨p, hp, htarget, hup, hkept⟩ :=
    replayed_kept v interval is (Text.upTo text cursor)
  have hconsumed : (replayed v interval p).scan.consumed = Text.size (Input.text p) :=
    Scan.consumed_replay _ p
  refine ⟨p, hp, htarget, hup, ?_, ?_⟩
  · rw [resumedAt_eq, hkept, hconsumed]
  · rw [update_eq, hkept, hconsumed, replayed_feed]

/-- Brought up to date with a text, a document has read that text up to the cursor. -/
theorem fresh_update (t text : Text) (cursor : Nat) :
    ((fresh v interval t).update text cursor).1 =
      fresh v interval (Text.upTo text cursor) := by
  obtain ⟨p, hp, htarget, -, -, hupdate⟩ :=
    replayed_update v interval (Input.ofText t) text cursor
  -- inputs without marks are those of a text
  obtain ⟨q, -, rfl⟩ := List.prefix_map_iff.1 hp
  have hq : Input.text (q.map .char) = q := Input.text_ofText q
  rw [hq] at htarget hupdate
  have hall : Input.ofText q ++ Input.ofText (Text.beyond (Text.upTo text cursor) (Text.size q)) =
      Input.ofText (Text.upTo text cursor) := by
    rw [← Input.ofText_append, Text.append_beyond_of_isPrefix htarget]
  rw [fresh_eq_replayed, hupdate, fresh_eq_replayed]
  exact congrArg (replayed v interval) hall

/-! ## Runs of edits -/

/-- What an editor does to a document, apart from marking its end. -/
inductive Edit where
  | append (chunk : Text)
  | update (text : Text) (cursor : Nat)
  | reset
  deriving DecidableEq, Repr

def apply (d : Document) : Edit → Document
  | .append chunk => (d.append chunk).1
  | .update text cursor => (d.update text cursor).1
  | .reset => d.reset

/-- The document after a run of edits. -/
def run (d : Document) (edits : List Edit) : Document := edits.foldl apply d

theorem run_cons (d : Document) (e : Edit) (edits : List Edit) :
    d.run (e :: edits) = (d.apply e).run edits := rfl

theorem fresh_apply (t : Text) (e : Edit) :
    ∃ t', (fresh v interval t).apply e = fresh v interval t' := by
  cases e with
  | append chunk => exact ⟨t ++ chunk, fresh_feed t chunk⟩
  | update text cursor => exact ⟨Text.upTo text cursor, fresh_update t text cursor⟩
  | reset => exact ⟨[], fresh_reset t⟩

theorem fresh_run (t : Text) (edits : List Edit) :
    ∃ t', (fresh v interval t).run edits = fresh v interval t' := by
  induction edits generalizing t with
  | nil => exact ⟨t, rfl⟩
  | cons e edits ih =>
    obtain ⟨t', h⟩ : ∃ t', (fresh v interval t).apply e = fresh v interval t' := fresh_apply t e
    rw [run_cons, h]
    exact ih t'

/-- A new document is the fresh document of no text, so edits leave it the fresh
document of the text it has then. -/
theorem new_run (v : VoidElements) (interval : Nat) (edits : List Edit) :
    (new v interval).run edits = fresh v interval ((new v interval).run edits).text := by
  obtain ⟨t, h⟩ : ∃ t, (fresh v interval []).run edits = fresh v interval t := fresh_run [] edits
  rw [show new v interval = fresh v interval [] from rfl, h, fresh_text]

/-- **A document under edit does not remember how it was edited.** After any run
of edits it is, in every part, the new document that read its text in one piece.
So its scan is that of the text; its checkpoints lie at the greedy offsets of the
text, and each is the scan of the prefix that ends there. The text is what the
last edit says: with what was appended at its end, or cut at the last boundary
at or before the cursor. -/
theorem run_forgets_history (v : VoidElements) (interval : Nat) (edits : List Edit) :
    let d := (new v interval).run edits
    d = ((new v interval).append d.text).1 ∧
    d.scan = Scan.feed v {} d.text ∧
    Scan.Greedy (max interval 1) d.text (d.checkpoints.map Scan.consumed) ∧
    (∀ cp ∈ d.checkpoints, ∃ p, p <+: d.text ∧ Text.size p = cp.consumed ∧
      cp = Scan.feed v {} p) ∧
    (∀ chunk, (d.append chunk).1.text = d.text ++ chunk) ∧
    (∀ text cursor, (d.update text cursor).1.text <+: text ∧
      IsGreatest {n | text.IsBoundary n ∧ n ≤ min cursor (Text.size text)}
        (Text.size (d.update text cursor).1.text)) ∧
    d.reset.text = [] := by
  intro d
  have hd : d = fresh v interval d.text := new_run v interval edits
  refine ⟨hd, ?_, ?_, ?_, ?_, ?_, rfl⟩
  · rw [hd]
    exact fresh_scan d.text
  · rw [hd]
    exact Scan.history_greedy (by omega) d.text
  · rw [hd]
    intro cp hcp
    exact Scan.mem_history hcp
  · intro chunk
    rfl
  · intro text cursor
    have htext : (d.update text cursor).1.text = Text.upTo text cursor := by
      rw [hd, fresh_update, fresh_text]
    rw [htext]
    exact ⟨Text.upTo_isPrefix text cursor, Text.isGreatest_size_upTo text cursor⟩

end Document

end MarkupCompletion
