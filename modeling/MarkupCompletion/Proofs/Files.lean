import MarkupCompletion.Files
import Mathlib.Tactic.SplitIfs

/-
  Files read back after they were written.

  Writing changes what stands at one location (`entry?_set_of_ne`), which is no directory, so
  every path is followed as before (`follow_set`), and what stands at the end of the path that
  was written is the new file (`look_write`). Whether a path can be written has nothing to do
  with what is written there (`write_any`).
-/

namespace MarkupCompletion

namespace Files

variable {fs : Files} {place : Location}

theorem lookup_filter_ne {p : Location} (h : p ≠ place) (entries : List (Location × Entry)) :
    (entries.filter fun x => x.1 != place).lookup p = entries.lookup p := by
  induction entries with
  | nil => rfl
  | cons x entries ih =>
    obtain ⟨q, e⟩ := x
    by_cases hplace : q = place
    · rw [List.filter_cons_of_neg (by simp [hplace]), ih, List.lookup_cons,
        beq_false_of_ne (hplace ▸ h)]
    · rw [List.filter_cons_of_pos (by simp [hplace]), List.lookup_cons, List.lookup_cons, ih]

theorem entry?_set_of_ne {p : Location} (h : p ≠ place) (e : Entry) :
    entry? (fs.set place e) p = fs.entry? p := by
  have hlookup : (fs.set place e).entries.lookup p = fs.entries.lookup p := by
    rw [set, List.lookup_append, lookup_filter_ne h, List.lookup_cons, beq_false_of_ne h]
    exact Option.or_none
  unfold entry?
  rw [hlookup]

theorem entry?_set_self (h : fs.entry? place ≠ some .directory) (e : Entry) :
    entry? (fs.set place e) place = some e := by
  have hinside : ¬(isUpward place || place == [['/']]) = true := fun hroot =>
    h (if_pos hroot)
  have hlookup : (fs.entries.filter fun x => x.1 != place).lookup place = none :=
    List.lookup_eq_none_iff.mpr fun p hp =>
      bne_iff_ne.mpr (bne_iff_ne.mp (List.mem_filter.mp hp).2).symm
  unfold entry?
  rw [if_neg hinside, set, List.lookup_append, hlookup, Option.none_or, List.lookup_cons_self]

/-- A path is followed as before after an entry was put where no directory stands. -/
theorem follow_set (h : fs.entry? place ≠ some .directory) (e : Entry) {top q : Location}
    {names : List Text} (hfollow : fs.follow top names = .ok q) :
    (fs.set place e).follow top names = .ok q := by
  induction names generalizing top with
  | nil => exact hfollow
  | cons name names ih =>
    rw [follow] at hfollow
    split at hfollow
    · cases hfollow
    · cases hfollow
    · next htop =>
      -- a location that is passed is a directory, so nothing was put there
      have hne : top ≠ place := fun heq => h (heq ▸ htop)
      simp only [follow, entry?_set_of_ne hne, htop]
      split_ifs at hfollow ⊢
      · exact ih hfollow
      · exact ih hfollow
      · exact ih hfollow

/-- What writing does: the file is put where its path ends, and no directory stands there. -/
theorem write_cases {fs' : Files} {path : Text} {content : Content}
    (h : fs.write path content = .ok fs') :
    checkPath path = .ok () ∧ path.getLast? ≠ some '/' ∧
      ∃ place, fs.follow (fs.start path).1 (fs.start path).2 = .ok place ∧
        fs.entry? place ≠ some .directory ∧ fs' = fs.set place (.file content) := by
  simp only [write, bind, Except.bind] at h
  split at h
  · cases h
  · next hpath =>
    split at h
    · split at h <;> cases h
    · next hslash =>
      split at h
      · cases h
      · next place hfollow =>
        split at h
        · cases h
        · next hentry => exact ⟨hpath, hslash, place, hfollow, hentry, (Except.ok.inj h).symm⟩

theorem write_any {fs' : Files} {path : Text} {content : Content}
    (h : fs.write path content = .ok fs') (other : Content) :
    ∃ fs'', fs.write path other = .ok fs'' := by
  obtain ⟨hpath, hslash, place, hfollow, hentry, -⟩ := write_cases h
  refine ⟨fs.set place (.file other), ?_⟩
  simp only [write, hpath, if_neg hslash, hfollow, bind, Except.bind]

theorem look_write {fs' : Files} {path : Text} {content : Content}
    (h : fs.write path content = .ok fs') : fs'.look path = .ok (.file content) := by
  obtain ⟨hpath, hslash, place, hfollow, hentry, rfl⟩ := write_cases h
  have hstart : (fs.set place (.file content)).start path = fs.start path := rfl
  simp only [look, locate, hpath, hstart, if_neg hslash, bind, Except.bind,
    follow_set hentry _ hfollow, entry?_set_self hentry]

theorem holds_write {fs' : Files} {path : Text} {content : Content}
    (h : fs.write path content = .ok fs') : fs'.holds path = true := by
  rw [holds, look_write h]

theorem readText_write {fs' : Files} {path t : Text} (h : fs.write path (.text t) = .ok fs') :
    fs'.readText path = .ok t := by
  rw [readText, look_write h]
  rfl

end Files

end MarkupCompletion
