import MarkupCompletion.Proofs.Toml.Value

/-
  Statements read back as they were written.

  Of the keys, those are meant that stand without quotes (`IsBare`). A path is read up to the
  first character that is no part of it, a statement up to the end of its line
  (`readStatement_written`), and a document statement by statement (`readStatements_write`): the
  line end that a statement leaves, and the empty line before a header, are passed over on the way
  to the next one. So reading a document gives what its statements describe (`read_write`).
-/

namespace MarkupCompletion

namespace Toml

/-! ## Keys -/

def IsBare (key : Text) : Prop := key ≠ [] ∧ ∀ c ∈ key, isKeyChar c = true

instance (key : Text) : Decidable (IsBare key) := inferInstanceAs (Decidable (_ ∧ _))

/-- Whether a path is one that can be written without quotes. -/
structure IsBarePath (path : List Text) : Prop where
  nonempty : path ≠ []
  bare : ∀ key ∈ path, IsBare key
  depth : path.length ≤ maxDepth

theorem writtenKey_of_bare {key : Text} (h : IsBare key) : writtenKey key = key := by
  obtain ⟨hne, hall⟩ := h
  rw [writtenKey, if_pos]
  simpa [hne] using hall

theorem readKey_of_bare {key rest : Text} (h : IsBare key)
    (hrest : ∀ c ∈ rest.head?, isKeyChar c = false) :
    readKey (key ++ rest) = some (key, rest) := by
  obtain ⟨hne, hall⟩ := h
  obtain ⟨htake, hdrop⟩ := span_word hall hrest
  obtain ⟨c, r, rfl⟩ := List.exists_cons_of_ne_nil hne
  have hc : isKeyChar c = true := hall c List.mem_cons_self
  rw [List.cons_append] at htake hdrop ⊢
  rw [readKey, if_neg (ne_of_holds hc (by decide)), if_neg (ne_of_holds hc (by decide)),
    if_pos hc, htake, hdrop]

theorem isSpace_of_isKeyChar {c : Char} (h : isKeyChar c = true) : isSpace c = false :=
  isSpace_eq_false h (by decide) (by decide)

theorem writtenPath_eq_cons {path : List Text} (hne : path ≠ [])
    (hbare : ∀ key ∈ path, IsBare key) : ∃ c r, writtenPath path = c :: r ∧ isKeyChar c = true := by
  obtain ⟨key, keys, rfl⟩ := List.exists_cons_of_ne_nil hne
  have hkey : IsBare key := hbare key List.mem_cons_self
  obtain ⟨c, r, rfl⟩ := List.exists_cons_of_ne_nil hkey.1
  have hc : isKeyChar c = true := hkey.2 c List.mem_cons_self
  rw [writtenPath, List.map_cons, writtenKey_of_bare hkey]
  cases keys with
  | nil => exact ⟨c, r, rfl, hc⟩
  | cons next keys => exact ⟨c, _, rfl, hc⟩

/-- A path is read up to the first character that is no part of it. -/
theorem readKeys_writtenPath {path : List Text} {rest : Text} (hne : path ≠ [])
    (hbare : ∀ key ∈ path, IsBare key) (hrest : ∀ c ∈ rest.head?, isKeyChar c = false)
    (hstop : ∀ r, skipSpaces rest ≠ '.' :: r) {count : Nat} (hcount : path.length ≤ count) :
    readKeys count (writtenPath path ++ rest) = some (path, skipSpaces rest) := by
  induction path generalizing count with
  | nil => exact absurd rfl hne
  | cons key keys ih =>
    obtain ⟨count, rfl⟩ := Nat.exists_eq_add_one_of_ne_zero (Nat.ne_zero_of_lt hcount)
    obtain ⟨hkey, hkeys⟩ := List.forall_mem_cons.mp hbare
    cases keys with
    | nil =>
      rw [writtenPath, List.map_singleton, writtenKey_of_bare hkey]
      simp only [Text.joinWith, readKeys, readKey_of_bare hkey hrest, Option.bind_eq_bind,
        Option.bind_some]
    | cons next keys =>
      obtain ⟨c, r, hpath, hc⟩ := writtenPath_eq_cons (List.cons_ne_nil next keys) hkeys
      have hjoined : writtenPath (key :: next :: keys) ++ rest =
          key ++ '.' :: (writtenPath (next :: keys) ++ rest) := by
        simp [writtenPath, Text.joinWith, writtenKey_of_bare hkey]
      have hdot : ∀ x ∈ ('.' :: (writtenPath (next :: keys) ++ rest)).head?,
          isKeyChar x = false := by
        rintro x ⟨rfl⟩
        decide
      have hread := ih (List.cons_ne_nil next keys) hkeys (Nat.le_of_succ_le_succ hcount)
      rw [hpath, List.cons_append] at hjoined hdot hread
      simp only [hjoined, readKeys, readKey_of_bare hkey hdot, Option.bind_eq_bind,
        Option.bind_some, skipSpaces_cons (by decide : isSpace '.' = false),
        skipSpaces_cons (isSpace_of_isKeyChar hc), hread, Option.map_some]

theorem readPath_writtenPath {path : List Text} (h : IsBarePath path) (rest : Text)
    (hrest : ∀ c ∈ rest.head?, isKeyChar c = false) (hstop : ∀ r, skipSpaces rest ≠ '.' :: r) :
    readPath (writtenPath path ++ rest) = some (path, skipSpaces rest) :=
  readKeys_writtenPath h.nonempty h.bare hrest hstop h.depth

/-! ## Statements -/

/-- The statements whose writing is undone by reading. -/
inductive Statement.IsPlain : Statement → Prop where
  | header {path : List Text} (h : IsBarePath path) : IsPlain (.header path)
  | arrayHeader {path : List Text} (h : IsBarePath path) : IsPlain (.arrayHeader path)
  | pair {path : List Text} {v : Value} (h : IsBarePath path) (hv : v.IsPlain) :
    IsPlain (.pair path v)

theorem readPath_bracket {path : List Text} (h : IsBarePath path) (r : Text) :
    readPath (skipSpaces (writtenPath path ++ ']' :: r)) = some (path, ']' :: r) := by
  have hread := readPath_writtenPath h (']' :: r) (by rintro x ⟨rfl⟩; decide)
    (by simp [skipSpaces, isSpace])
  obtain ⟨c, u, hpath, hc⟩ := writtenPath_eq_cons h.nonempty h.bare
  rw [hpath, List.cons_append] at hread ⊢
  rw [skipSpaces_cons (isSpace_of_isKeyChar hc), hread, skipSpaces_cons (by decide)]

theorem after_cons (c : Char) (r : Text) : after c (c :: r) = some r := by
  rw [after, if_pos rfl]

section Statements

variable {path : List Text} (h : IsBarePath path)

include h

theorem writtenPath_append_ne (t r : Text) : writtenPath path ++ t ≠ '[' :: r := by
  obtain ⟨c, u, hpath, hc⟩ := writtenPath_eq_cons h.nonempty h.bare
  rw [hpath]
  exact fun heq => ne_of_holds hc (by decide) (List.cons.inj heq).1

theorem readStatement_header (rest : Text) :
    readStatement ((Statement.header path).written ++ rest) =
      some (.header path, '\n' :: rest) := by
  have htext : (Statement.header path).written ++ rest =
      '[' :: (writtenPath path ++ ']' :: '\n' :: rest) := by
    simp [Statement.written]
  rw [htext, readStatement]
  · simp only [readPath_bracket h, Option.bind_eq_bind, Option.bind_some, after_cons,
      skipSpaces_cons (by decide : isSpace ']' = false)]
  · exact writtenPath_append_ne h _

theorem readStatement_arrayHeader (rest : Text) :
    readStatement ((Statement.arrayHeader path).written ++ rest) =
      some (.arrayHeader path, '\n' :: rest) := by
  have htext : (Statement.arrayHeader path).written ++ rest =
      '[' :: '[' :: (writtenPath path ++ ']' :: ']' :: '\n' :: rest) := by
    simp [Statement.written]
  rw [htext, readStatement]
  simp only [readPath_bracket h, Option.bind_eq_bind, Option.bind_some, after_cons,
    skipSpaces_cons (by decide : isSpace ']' = false)]

theorem readStatement_pair {v : Value} (hv : v.IsPlain) (rest : Text) :
    readStatement ((Statement.pair path v).written ++ rest) =
      some (.pair path v, '\n' :: rest) := by
  have htext : (Statement.pair path v).written ++ rest =
      writtenPath path ++ ' ' :: '=' :: ' ' :: (v.written ++ '\n' :: rest) := by
    simp [Statement.written]
  have hpath := readPath_writtenPath h (' ' :: '=' :: ' ' :: (v.written ++ '\n' :: rest))
    (by rintro x ⟨rfl⟩; decide) (by simp [skipSpaces, isSpace])
  have hassign : skipSpaces (' ' :: '=' :: ' ' :: (v.written ++ '\n' :: rest)) =
      '=' :: ' ' :: (v.written ++ '\n' :: rest) := by
    simp [skipSpaces, isSpace]
  rw [hassign] at hpath
  rw [htext, readStatement]
  · simp only [hpath, Option.bind_eq_bind, Option.bind_some, after_cons, readValue_written hv,
      skipSpaces_written hv, skipSpaces_cons (by decide : isSpace '=' = false)]
  · exact fun r => writtenPath_append_ne h _ _
  · exact fun r => writtenPath_append_ne h _ _

end Statements

theorem readStatement_written {s : Statement} (h : s.IsPlain) (rest : Text) :
    readStatement (s.written ++ rest) = some (s, '\n' :: rest) := by
  cases h with
  | header hpath => exact readStatement_header hpath rest
  | arrayHeader hpath => exact readStatement_arrayHeader hpath rest
  | pair hpath hv => exact readStatement_pair hpath hv rest

/-! ## Documents -/

/-- Whether a character can be the first of a statement. -/
def startsStatement (c : Char) : Bool := c == '[' || isKeyChar c

/-- A statement starts with a bracket or with a character of its first key. -/
theorem Statement.written_eq_cons {s : Statement} (h : s.IsPlain) :
    ∃ c r, s.written = c :: r ∧ startsStatement c = true := by
  cases h with
  | header => exact ⟨'[', _, rfl, rfl⟩
  | arrayHeader => exact ⟨'[', _, rfl, rfl⟩
  | pair h =>
    obtain ⟨c, r, hpath, hc⟩ := writtenPath_eq_cons h.nonempty h.bare
    exact ⟨c, _, by rw [Statement.written, hpath]; rfl, by rw [startsStatement, hc, Bool.or_true]⟩

theorem skipGap_written {s : Statement} (h : s.IsPlain) (rest : Text) :
    skipGap false (s.written ++ rest) = some (s.written ++ rest) := by
  obtain ⟨c, r, hs, hc⟩ := Statement.written_eq_cons h
  have hspace : isSpace c = false := isSpace_eq_false hc (by decide) (by decide)
  rw [hs, List.cons_append, skipGap, if_neg (ne_of_holds hc (by decide)),
    if_neg (ne_of_holds hc (by decide)), if_neg (by decide), hspace, if_neg (by decide),
    if_neg (ne_of_holds hc (by decide))]

theorem skipLine_writtenRest {ss : List Statement} (h : ∀ s ∈ ss, s.IsPlain) :
    skipLine ('\n' :: writtenRest ss) = some (write ss) := by
  have hline : skipLine ('\n' :: writtenRest ss) = skipGap false (writtenRest ss) := by
    simp [skipLine, skipSpaces, isSpace, skipGap]
  rw [hline]
  cases ss with
  | nil => rfl
  | cons s ss =>
    have hgap := skipGap_written (h s List.mem_cons_self) (writtenRest ss)
    have hrest : writtenRest (s :: ss) =
        (if s.isHeader then '\n' :: s.written else s.written) ++ writtenRest ss := by
      rw [writtenRest, List.flatMap_cons, writtenRest]
    rw [hrest, write]
    split
    · rw [List.cons_append, skipGap, if_pos rfl, hgap]
    · exact hgap

theorem readStatements_write {ss : List Statement} (h : ∀ s ∈ ss, s.IsPlain) {fuel : Nat}
    (hfuel : ss.length < fuel) : readStatements fuel (write ss) = some ss := by
  induction ss generalizing fuel with
  | nil =>
    obtain ⟨fuel, rfl⟩ := Nat.exists_eq_add_one_of_ne_zero (Nat.ne_zero_of_lt hfuel)
    rfl
  | cons s ss ih =>
    obtain ⟨fuel, rfl⟩ := Nat.exists_eq_add_one_of_ne_zero (Nat.ne_zero_of_lt hfuel)
    obtain ⟨hs, hss⟩ := List.forall_mem_cons.mp h
    have hread := readStatement_written hs (writtenRest ss)
    obtain ⟨c, r, hwritten, -⟩ := Statement.written_eq_cons hs
    rw [write]
    rw [hwritten, List.cons_append] at hread ⊢
    simp only [readStatements, hread, skipLine_writtenRest hss, Option.bind_eq_bind,
      Option.bind_some, ih hss (Nat.lt_of_succ_lt_succ hfuel), Option.map_some]

theorem length_le_writtenRest {ss : List Statement} (h : ∀ s ∈ ss, s.IsPlain) :
    ss.length ≤ (writtenRest ss).length := by
  induction ss with
  | nil => exact Nat.zero_le _
  | cons s ss ih =>
    obtain ⟨hs, hss⟩ := List.forall_mem_cons.mp h
    obtain ⟨c, r, hwritten, -⟩ := Statement.written_eq_cons hs
    have hrest := ih hss
    rw [writtenRest] at hrest ⊢
    rw [List.flatMap_cons, List.length_append, hwritten, List.length_cons]
    split <;> simp only [List.length_cons] <;> omega

theorem read_write {ss : List Statement} (h : ∀ s ∈ ss, s.IsPlain) :
    read (write ss) = assemble ss := by
  cases ss with
  | nil => rfl
  | cons s ss =>
    obtain ⟨hs, hss⟩ := List.forall_mem_cons.mp h
    obtain ⟨c, r, hwritten, hc⟩ := Statement.written_eq_cons hs
    have hmark : (write (s :: ss)).head? ≠ some '\ufeff' := by
      rw [write, hwritten]
      exact fun h => ne_of_holds hc (by decide) (Option.some.inj h)
    have hgap : skipGap false (write (s :: ss)) = some (write (s :: ss)) :=
      skipGap_written hs (writtenRest ss)
    have hfuel : (s :: ss).length < (write (s :: ss)).length + 1 := by
      have hrest := length_le_writtenRest hss
      rw [write, hwritten, List.length_append, List.length_cons, List.length_cons]
      omega
    simp only [read, if_neg hmark, hgap, readStatements_write h hfuel, Option.bind_eq_bind,
      Option.bind_some]

end Toml

end MarkupCompletion
