import MarkupCompletion.Proofs.Document.History

/-
  What an update reports, and what it costs.

  An update that goes on at the end of what was read resumes there and reads only what
  is new. Any other one goes back to the newest checkpoint that lies in what the old
  text and the new one have in common. Checkpoints are greedy, so that checkpoint lies
  less than the interval before the first change (`Greedy.lt_newestUpTo_add`), and that is
  all an update reads again. The doctype is reported as another one if the two texts,
  each read afresh, have different doctypes (`run_update_report`).
-/

namespace MarkupCompletion

/-! ## The newest offset up to a limit -/

/-- Of offsets, newest first, the newest that is not above a limit; zero if there is
none. -/
def newestUpTo (limit : Nat) (offsets : List Nat) : Nat :=
  (offsets.dropWhile fun n => limit < n).headD 0

theorem newestUpTo_cons (limit n : Nat) (offsets : List Nat) :
    newestUpTo limit (n :: offsets) = if limit < n then newestUpTo limit offsets else n := by
  by_cases h : limit < n
  · simp [newestUpTo, h]
  · simp [newestUpTo, h]

/-- Where offsets descend, the newest up to a limit is the greatest up to it. -/
theorem isGreatest_newestUpTo {offsets : List Nat} (limit : Nat)
    (h : offsets.Pairwise fun newer older => older ≤ newer) :
    IsGreatest {n | n = 0 ∨ n ∈ offsets ∧ n ≤ limit} (newestUpTo limit offsets) := by
  induction offsets with
  | nil =>
    refine ⟨Or.inl rfl, ?_⟩
    rintro n (rfl | ⟨hn, -⟩)
    · exact Nat.zero_le _
    · exact absurd hn List.not_mem_nil
  | cons o offsets ih =>
    obtain ⟨hbelow, hrest⟩ := List.pairwise_cons.1 h
    obtain ⟨hmem, hgreatest⟩ := ih hrest
    rw [newestUpTo_cons]
    split
    · next habove =>
      -- the newest offset lies above the limit, so the others decide
      refine ⟨hmem.imp id fun hm => ⟨List.mem_cons_of_mem o hm.1, hm.2⟩, ?_⟩
      rintro n (rfl | ⟨hn, hle⟩)
      · exact Nat.zero_le _
      · rcases List.mem_cons.1 hn with rfl | hn
        · omega
        · exact hgreatest (Or.inr ⟨hn, hle⟩)
    · next hwithin =>
      refine ⟨Or.inr ⟨List.mem_cons_self, by omega⟩, ?_⟩
      rintro n (rfl | ⟨hn, -⟩)
      · exact Nat.zero_le _
      · rcases List.mem_cons.1 hn with rfl | hn
        · exact Nat.le_refl _
        · exact hbelow n hn

namespace Scan

variable {interval : Nat} {t : Text} {offsets : List Nat}

theorem Greedy.descending (h : Greedy interval t offsets) :
    offsets.Pairwise fun newer older => older ≤ newer := by
  have hchain : (offsets ++ [0]).IsChain fun newer older : Nat => newer ≥ older := by
    refine h.spaced.imp fun newer older hleast => ?_
    have := hleast.1.2
    omega
  exact (List.pairwise_append.1 hchain.pairwise).1

/-- A boundary lies less than the interval after the newest greedy offset up to it:
otherwise the next offset would have been taken there at the latest. -/
theorem lt_newestUpTo_add {n : Nat} (hn : t.IsBoundary n)
    (hspaced : (offsets ++ [0]).IsChain fun newer older =>
      IsLeast {m | t.IsBoundary m ∧ older + interval ≤ m} newer)
    (hnear : n < offsets.headD 0 + interval) : n < newestUpTo n offsets + interval := by
  induction offsets with
  | nil => exact hnear
  | cons o offsets ih =>
    obtain ⟨hnext, hspaced⟩ := List.isChain_cons.1 hspaced
    have hleast := hnext (offsets.headD 0) (by cases offsets <;> rfl)
    rw [newestUpTo_cons]
    split
    · next habove =>
      apply ih hspaced
      by_contra hfar
      have := hleast.2 ⟨hn, Nat.le_of_not_lt hfar⟩
      omega
    · exact hnear

theorem Greedy.lt_newestUpTo_add (h : Greedy interval t offsets) {n : Nat}
    (hn : t.IsBoundary n) : n < newestUpTo n offsets + interval :=
  Scan.lt_newestUpTo_add hn h.spaced (h.complete n hn)

end Scan

namespace Document

theorem consumed_rollBack (d : Document) (offset : Nat) :
    (d.rollBack offset).scan.consumed =
      newestUpTo offset (d.checkpoints.map Scan.consumed) := by
  simp only [rollBack, newestUpTo, List.dropWhile_map, Function.comp_def]
  cases d.checkpoints.dropWhile fun s => decide (offset < s.consumed) with
  | nil => rfl
  | cons s checkpoints => rfl

/-- Where reading resumes: at the end of a text that goes on, else at the newest
checkpoint in what the texts have in common. -/
theorem fresh_resumedAt (v : VoidElements) (interval : Nat) (old text : Text) (cursor : Nat) :
    ((fresh v interval old).update text cursor).2.resumedAt =
      if old <+: Text.upTo text cursor then Text.size old
      else newestUpTo (Text.size (Text.commonPrefix old (Text.upTo text cursor)))
        ((fresh v interval old).checkpoints.map Scan.consumed) := by
  rw [resumedAt_eq, kept, fresh_text, Text.commonSize_eq]
  by_cases hon : old <+: Text.upTo text cursor
  · rw [if_neg (fun hless => Text.size_commonPrefix_lt_iff.1 hless hon), if_pos hon]
    exact Scan.consumed_history _ old
  · rw [if_pos (Text.size_commonPrefix_lt_iff.2 hon), if_neg hon, consumed_rollBack]

/-- What is read and the byte at which reading resumes make up the new text. -/
theorem fresh_resumedAt_add_fed (v : VoidElements) (interval : Nat) (old text : Text)
    (cursor : Nat) :
    let report := ((fresh v interval old).update text cursor).2
    report.resumedAt + report.fed = Text.size (Text.upTo text cursor) := by
  intro report
  obtain ⟨p, -, htarget, -, hresumed, -⟩ :=
    replayed_update v interval (Input.ofText old) text cursor
  rw [← fresh_eq_replayed] at hresumed
  have hfed : report.fed =
      Text.size (Text.beyond (Text.upTo text cursor) (Text.size (Input.text p))) := by
    rw [← hresumed]
    rfl
  calc report.resumedAt + report.fed
      = Text.size (Input.text p ++
          Text.beyond (Text.upTo text cursor) (Text.size (Input.text p))) := by
        rw [hfed, Text.size_append]
        exact congrArg (· + _) hresumed
    _ = Text.size (Text.upTo text cursor) := by rw [Text.append_beyond_of_isPrefix htarget]

theorem fresh_doctypeChanged (v : VoidElements) (interval : Nat) (old text : Text)
    (cursor : Nat) :
    ((fresh v interval old).update text cursor).2.doctypeChanged =
      ((Scan.feed v {} (Text.upTo text cursor)).doctype != (Scan.feed v {} old).doctype) := by
  have hbefore : (fresh v interval old).scan = Scan.feed v {} old := fresh_scan old
  have hafter : ((fresh v interval old).update text cursor).1.scan =
      Scan.feed v {} (Text.upTo text cursor) := by
    rw [fresh_update, fresh_scan]
  rw [← hbefore, ← hafter]
  rfl

/-- **What an update of an edited document costs and reports.** Let `target` be the
text cut at the cursor and `common` the size of the longest prefix that it shares with
what was read. An update that goes on resumes at the end of what was read. Any other
one resumes at the greatest checkpoint up to `common`, less than the interval before
it. All of the new text from there on is read and no more, and the doctype is reported
as changed if the old text and the new one, read afresh, have different ones. -/
theorem run_update_report (v : VoidElements) (interval : Nat) (edits : List Edit) (text : Text)
    (cursor : Nat) :
    let d := (new v interval).run edits
    let target := Text.upTo text cursor
    let common := Text.size (Text.commonPrefix d.text target)
    let report := (d.update text cursor).2
    IsGreatest {n | ∃ p, p <+: d.text ∧ p <+: target ∧ Text.size p = n} common ∧
    (d.text <+: target → report.resumedAt = Text.size d.text) ∧
    (¬ d.text <+: target →
      IsGreatest {n | n = 0 ∨ n ∈ d.checkpoints.map Scan.consumed ∧ n ≤ common}
        report.resumedAt ∧
      common < report.resumedAt + max interval 1) ∧
    report.resumedAt + report.fed = Text.size target ∧
    report.resumedAt ≤ common ∧
    (report.doctypeChanged = true ↔
      (Scan.feed v {} d.text).doctype ≠ (Scan.feed v {} target).doctype) := by
  intro d target common report
  have hd : d = fresh v interval d.text := new_run v interval edits
  have hgreedy : Scan.Greedy (max interval 1) d.text (d.checkpoints.map Scan.consumed) := by
    rw [hd]
    exact Scan.history_greedy (by omega) d.text
  have hresumed : report.resumedAt = if d.text <+: target then Text.size d.text
      else newestUpTo common (d.checkpoints.map Scan.consumed) := by
    have h := fresh_resumedAt v interval d.text text cursor
    rwa [← hd] at h
  have hfed : report.resumedAt + report.fed = Text.size target := by
    have h := fresh_resumedAt_add_fed v interval d.text text cursor
    rwa [← hd] at h
  have hchanged : report.doctypeChanged =
      ((Scan.feed v {} target).doctype != (Scan.feed v {} d.text).doctype) := by
    have h := fresh_doctypeChanged v interval d.text text cursor
    rwa [← hd] at h
  have hcommon := Text.isGreatest_size_commonPrefix d.text target
  have hback := isGreatest_newestUpTo common hgreedy.descending
  refine ⟨hcommon, fun hon => by rw [hresumed, if_pos hon], fun hoff => ?_, hfed, ?_, ?_⟩
  · rw [hresumed, if_neg hoff]
    refine ⟨hback, hgreedy.lt_newestUpTo_add ?_⟩
    exact ⟨_, Text.commonPrefix_prefix_left d.text target, rfl⟩
  · rw [hresumed]
    split
    · next hon => exact hcommon.2 ⟨d.text, List.prefix_rfl, hon, rfl⟩
    · rcases hback.1 with hzero | ⟨-, hle⟩
      · omega
      · exact hle
  · rw [hchanged, bne_iff_ne, ne_comm]

end Document

end MarkupCompletion
