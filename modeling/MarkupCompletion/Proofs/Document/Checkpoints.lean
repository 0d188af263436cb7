import MarkupCompletion.Document
import MarkupCompletion.Proofs.Text.Prefix
import Mathlib.Data.List.Induction
import Mathlib.Data.List.Chain

/-
  The checkpoints of a reading.

  A document is given inputs: characters, and marks of its end. `Scan.replay v
  interval is` is what the inputs `is` leave from nothing, the last scan and the
  checkpoints, and `Scan.history v interval t` is the same for the characters of a
  text alone. Proved of them:

    1. every checkpoint is the scan of a start of the inputs, and with the
       checkpoints below it makes up what that start leaves (`replay_of_suffix`,
       `history_of_suffix`), so going back to a checkpoint is going back to a
       shorter reading;
    2. without marks the checkpoints lie at the greedy offsets (`history_greedy`):
       each at the first boundary at least `interval` bytes after the one before
       it, and none is missing at the end.
-/

namespace MarkupCompletion

/-! ## Inputs -/

/-- What a document is given: a character, or the mark of its end. -/
inductive Input where
  | char (c : Char)
  | ending
  deriving DecidableEq, Repr

namespace Input

def ofText (t : Text) : List Input := t.map .char

/-- The characters that were given. -/
def text : List Input → Text
  | [] => []
  | .char c :: is => c :: text is
  | .ending :: is => text is

/-- The shortest start whose characters take `n` bytes. What was marked after the
last of them is not a part of it. -/
def upTo : List Input → Nat → List Input
  | [], _ => []
  | .char c :: is, n => if n = 0 then [] else .char c :: upTo is (n - c.utf8Size)
  | .ending :: is, n => if n = 0 then [] else .ending :: upTo is n

/-- What an update keeps that resumes at byte `n`. One that resumes at the end keeps
all, the marks after the last character too. -/
def keep (is : List Input) (n : Nat) : List Input :=
  if n < Text.size (text is) then upTo is n else is

theorem ofText_append (a b : Text) : ofText (a ++ b) = ofText a ++ ofText b := List.map_append

theorem text_append (a b : List Input) : text (a ++ b) = text a ++ text b := by
  induction a with
  | nil => rfl
  | cons i a ih =>
    cases i with
    | char c => simp only [List.cons_append, text, ih]
    | ending => exact ih

theorem text_ofText (t : Text) : text (ofText t) = t := by
  induction t with
  | nil => rfl
  | cons c t ih => exact congrArg (c :: ·) ih

theorem ofText_text {is : List Input} (h : .ending ∉ is) :
    ofText (text is) = is := by
  induction is with
  | nil => rfl
  | cons i is ih =>
    rw [List.mem_cons, not_or] at h
    cases i with
    | char c => exact congrArg (Input.char c :: ·) (ih h.2)
    | ending => exact absurd rfl h.1

theorem text_prefix {p is : List Input} (h : p <+: is) : text p <+: text is := by
  obtain ⟨rest, rfl⟩ := h
  rw [text_append]
  exact List.prefix_append _ _

theorem upTo_zero (is : List Input) : upTo is 0 = [] := by
  cases is with
  | nil => rfl
  | cons i is => cases i <;> rfl

/-- A start that ends with a character is the shortest of its size. -/
theorem upTo_of_prefix {p is : List Input} {c : Char} (h : p ++ [.char c] <+: is) :
    upTo is (Text.size (text (p ++ [.char c]))) = p ++ [.char c] := by
  have hpos := c.utf8Size_pos
  obtain ⟨rest, rfl⟩ := h
  induction p with
  | nil =>
    simp only [List.nil_append, text, Text.size, List.singleton_append, upTo]
    rw [if_neg (by omega), Nat.add_zero, Nat.sub_self, upTo_zero]
  | cons i p ih =>
    have hne : Text.size (text (p ++ [.char c])) ≠ 0 := by
      rw [text_append, Text.size_append]
      simp only [text, Text.size]
      omega
    cases i with
    | char d =>
      simp only [List.cons_append, text, Text.size, upTo]
      rw [if_neg (by omega), Nat.add_sub_cancel_left, ih]
    | ending =>
      simp only [List.cons_append, text, upTo]
      rw [if_neg hne, ih]

end Input

namespace Scan

variable {v : VoidElements}

/-- The scan of inputs: a mark closes all that is open. -/
def readInputs (v : VoidElements) (s : Scan) : List Input → Scan
  | [] => s
  | .char c :: is => (s.step v c).readInputs v is
  | .ending :: is => s.finish.readInputs v is

theorem readInputs_append (s : Scan) (a b : List Input) :
    s.readInputs v (a ++ b) = (s.readInputs v a).readInputs v b := by
  induction a generalizing s with
  | nil => rfl
  | cons i a ih =>
    cases i with
    | char c => exact ih (s.step v c)
    | ending => exact ih s.finish

theorem readInputs_ofText (s : Scan) (t : Text) :
    s.readInputs v (Input.ofText t) = s.feed v t := by
  induction t generalizing s with
  | nil => rfl
  | cons c t ih => exact ih (s.step v c)

def noted (interval : Nat) (s : Scan) (checkpoints : List Scan) : List Scan :=
  if interval ≤ s.consumed - newestOffset checkpoints then s :: checkpoints else checkpoints

/-- The scan and the checkpoints after one input more. A mark ends the document for
the scan alone. -/
def enter (v : VoidElements) (interval : Nat) (h : Scan × List Scan) :
    Input → Scan × List Scan
  | .char c => (h.1.step v c, noted interval (h.1.step v c) h.2)
  | .ending => (h.1.finish, h.2)

/-- The scan and the checkpoints that inputs leave, from nothing. -/
def replay (v : VoidElements) (interval : Nat) (is : List Input) : Scan × List Scan :=
  is.foldl (enter v interval) ({}, [])

theorem replay_concat (interval : Nat) (is : List Input) (i : Input) :
    replay v interval (is ++ [i]) = enter v interval (replay v interval is) i :=
  List.foldl_concat ..

theorem feedMarking_eq_foldl (interval : Nat) (t : Text) (s : Scan) (cps : List Scan) :
    feedMarking v interval t s cps = (Input.ofText t).foldl (enter v interval) (s, cps) := by
  induction t generalizing s cps with
  | nil => rfl
  | cons c t ih => exact ih (s.step v c) (noted interval (s.step v c) cps)

/-- What is read does not depend on the checkpoints that are taken. -/
theorem feedMarking_fst (interval : Nat) (t : Text) (s : Scan) (cps : List Scan) :
    (feedMarking v interval t s cps).1 = s.feed v t := by
  induction t generalizing s cps with
  | nil => rfl
  | cons c t ih => exact ih (s.step v c) (noted interval (s.step v c) cps)

theorem replay_append_ofText (interval : Nat) (is : List Input) (t : Text) :
    replay v interval (is ++ Input.ofText t) =
      feedMarking v interval t (replay v interval is).1 (replay v interval is).2 := by
  rw [replay, List.foldl_append, feedMarking_eq_foldl]
  rfl

theorem replay_fst (interval : Nat) (is : List Input) :
    (replay v interval is).1 = readInputs v {} is := by
  induction is using List.reverseRecOn with
  | nil => rfl
  | append_singleton is i ih =>
    rw [replay_concat, readInputs_append, ← ih]
    cases i with
    | char c => rfl
    | ending => rfl

/-- Reading counts the bytes of the characters; marks are not counted. -/
theorem consumed_replay (interval : Nat) (is : List Input) :
    (replay v interval is).1.consumed = Text.size (Input.text is) := by
  induction is using List.reverseRecOn with
  | nil => rfl
  | append_singleton is i ih =>
    rw [replay_concat, Input.text_append, Text.size_append, ← ih]
    cases i with
    | char c => rfl
    | ending => rfl

/-! ## The history of a text -/

/-- The scan and the checkpoints that reading a text from nothing leaves. -/
def history (v : VoidElements) (interval : Nat) (t : Text) : Scan × List Scan :=
  feedMarking v interval t {} []

theorem history_eq_replay (interval : Nat) (t : Text) :
    history v interval t = replay v interval (Input.ofText t) :=
  feedMarking_eq_foldl interval t {} []

/-- A text read in two pieces leaves what it leaves when it is read at once. -/
theorem history_append (interval : Nat) (a b : Text) :
    history v interval (a ++ b) =
      feedMarking v interval b (history v interval a).1 (history v interval a).2 := by
  rw [history_eq_replay, Input.ofText_append, replay_append_ofText, history_eq_replay]

theorem history_concat (interval : Nat) (t : Text) (c : Char) :
    history v interval (t ++ [c]) =
      ((history v interval t).1.step v c,
        noted interval ((history v interval t).1.step v c) (history v interval t).2) := by
  rw [history_append]
  rfl

theorem history_fst (interval : Nat) (t : Text) :
    (history v interval t).1 = Scan.feed v {} t := feedMarking_fst interval t {} []

theorem consumed_history (interval : Nat) (t : Text) :
    (history v interval t).1.consumed = Text.size t := by
  rw [history_eq_replay, consumed_replay, Input.text_ofText]

/-! ## Checkpoints are shorter readings -/

/-- A checkpoint and those below it are what is left of the inputs up to a
character. -/
theorem replay_of_suffix {interval : Nat} {is : List Input} {cp : Scan} {rest : List Scan}
    (h : cp :: rest <:+ (replay v interval is).2) :
    ∃ p c, p ++ [.char c] <+: is ∧ replay v interval (p ++ [.char c]) = (cp, cp :: rest) := by
  induction is using List.reverseRecOn with
  | nil => simp [replay] at h
  | append_singleton is i ih =>
    have earlier (h : cp :: rest <:+ (replay v interval is).2) :
        ∃ p c, p ++ [.char c] <+: is ++ [i] ∧
          replay v interval (p ++ [.char c]) = (cp, cp :: rest) := by
      obtain ⟨p, c, hp, hreplay⟩ := ih h
      exact ⟨p, c, hp.trans (List.prefix_append is [i]), hreplay⟩
    rw [replay_concat] at h
    cases i with
    | ending => exact earlier h
    | char c =>
      simp only [enter, noted] at h
      split at h
      · next hfar =>
        rcases List.suffix_cons_iff.1 h with heq | hsuf
        · -- the checkpoint is the scan after `c` itself
          obtain ⟨rfl, rfl⟩ := List.cons.inj heq
          refine ⟨is, c, List.prefix_rfl, ?_⟩
          rw [replay_concat, enter, noted, if_pos hfar]
        · exact earlier hsuf
      · exact earlier h

theorem history_of_suffix {interval : Nat} {t : Text} {cp : Scan} {rest : List Scan}
    (h : cp :: rest <:+ (history v interval t).2) :
    ∃ p, p <+: t ∧ history v interval p = (cp, cp :: rest) := by
  rw [history_eq_replay] at h
  obtain ⟨p, c, hp, hreplay⟩ := replay_of_suffix h
  obtain ⟨q, hq, heq⟩ := List.prefix_map_iff.1 hp
  exact ⟨q, hq, by rw [history_eq_replay, Input.ofText, ← heq, hreplay]⟩

/-- Every checkpoint is the scan of the prefix that ends at its offset. -/
theorem mem_history {interval : Nat} {t : Text} {cp : Scan}
    (h : cp ∈ (history v interval t).2) :
    ∃ p, p <+: t ∧ Text.size p = cp.consumed ∧ cp = Scan.feed v {} p := by
  obtain ⟨newer, rest, hsplit⟩ := List.append_of_mem h
  have hsuf : cp :: rest <:+ (history v interval t).2 := ⟨newer, hsplit.symm⟩
  obtain ⟨p, hp, hhist⟩ := history_of_suffix hsuf
  have hcp : (history v interval p).1 = cp := by rw [hhist]
  refine ⟨p, hp, ?_, ?_⟩
  · rw [← hcp, consumed_history]
  · rw [← hcp, history_fst]

/-! ## Checkpoints are greedy -/

/-- Offsets, newest first, that are taken greedily: each is the first boundary
of the text at least `interval` bytes after the one before it, the first one
after the start, and no boundary is that far after the newest. -/
structure Greedy (interval : Nat) (t : Text) (offsets : List Nat) : Prop where
  spaced : (offsets ++ [0]).IsChain fun newer older =>
    IsLeast {n | t.IsBoundary n ∧ older + interval ≤ n} newer
  complete : ∀ n, t.IsBoundary n → n < offsets.headD 0 + interval

theorem newestOffset_eq (cps : List Scan) :
    newestOffset cps = (cps.map Scan.consumed).headD 0 := by
  cases cps <;> rfl

theorem isLeast_boundary_concat {interval older newer : Nat} {t : Text} (c : Char)
    (h : IsLeast {n | t.IsBoundary n ∧ older + interval ≤ n} newer) :
    IsLeast {n | Text.IsBoundary (t ++ [c]) n ∧ older + interval ≤ n} newer := by
  obtain ⟨⟨hbound, hfar⟩, hleast⟩ := h
  refine ⟨⟨Text.isBoundary_concat.2 (Or.inl hbound), hfar⟩, ?_⟩
  rintro n ⟨hn, hnfar⟩
  rcases Text.isBoundary_concat.1 hn with hn | rfl
  · exact hleast ⟨hn, hnfar⟩
  · have := hbound.le_size
    rw [Text.size_append]
    omega

theorem Greedy.nil (interval : Nat) (hpos : 0 < interval) : Greedy interval [] [] where
  spaced := List.IsChain.singleton 0
  complete := by
    intro n hn
    have := hn.le_size
    simp only [Text.size, List.headD_nil] at this ⊢
    omega

/-- A character whose end lies far enough from the newest offset adds its end. -/
theorem Greedy.far {interval : Nat} {t : Text} {offsets : List Nat} (c : Char)
    (hpos : 0 < interval) (h : Greedy interval t offsets)
    (hfar : offsets.headD 0 + interval ≤ Text.size (t ++ [c])) :
    Greedy interval (t ++ [c]) (Text.size (t ++ [c]) :: offsets) where
  spaced := by
    have older := h.spaced.imp fun _ _ => isLeast_boundary_concat c
    have newest : IsLeast
        {n | Text.IsBoundary (t ++ [c]) n ∧ offsets.headD 0 + interval ≤ n}
        (Text.size (t ++ [c])) := by
      refine ⟨⟨Text.isBoundary_size _, hfar⟩, ?_⟩
      rintro n ⟨hn, hnfar⟩
      rcases Text.isBoundary_concat.1 hn with hn | rfl
      · have := h.complete n hn
        omega
      · exact Nat.le_refl _
    cases offsets with
    | nil => exact List.isChain_cons_cons.2 ⟨newest, older⟩
    | cons o offsets => exact List.isChain_cons_cons.2 ⟨newest, older⟩
  complete := by
    intro n hn
    have := hn.le_size
    simp only [List.headD_cons]
    omega

theorem Greedy.near {interval : Nat} {t : Text} {offsets : List Nat} (c : Char)
    (h : Greedy interval t offsets)
    (hnear : Text.size (t ++ [c]) < offsets.headD 0 + interval) :
    Greedy interval (t ++ [c]) offsets where
  spaced := h.spaced.imp fun _ _ => isLeast_boundary_concat c
  complete := by
    intro n hn
    have := hn.le_size
    omega

theorem history_greedy {interval : Nat} (hpos : 0 < interval) (t : Text) :
    Greedy interval t ((history v interval t).2.map Scan.consumed) := by
  induction t using List.reverseRecOn with
  | nil => exact Greedy.nil interval hpos
  | append_singleton t c ih =>
    have hsize : ((history v interval t).1.step v c).consumed = Text.size (t ++ [c]) := by
      have := consumed_history (v := v) interval (t ++ [c])
      rwa [history_concat] at this
    rw [history_concat]
    simp only [noted, newestOffset_eq, hsize]
    split
    · next hfar =>
      rw [List.map_cons, hsize]
      exact ih.far c hpos (by omega)
    · next hnear => exact ih.near c (by omega)

end Scan

end MarkupCompletion
