import MarkupCompletion.Proofs.Toml.Quoted
import MarkupCompletion.Proofs.Toml.Scalar
import MarkupCompletion.Toml.Written

/-
  Values read back as they were written.

  The values are strings, truth values, numbers without a sign and lists of strings
  (`Value.IsPlain`). A list may be empty, stand on its line or take a line for each item; all
  three layouts are read back item by item (`readItems_written`). A value is read up to the end
  of its line (`readValue_written`).
-/

namespace MarkupCompletion

namespace Toml

/-- The values that a statement is to have: those whose writing is undone by reading. -/
inductive Value.IsPlain : Value → Prop where
  | string (t : Text) : IsPlain (.string t)
  | boolean (b : Bool) : IsPlain (.boolean b)
  | integer {n : Nat} (h : holdsInteger n = true) : IsPlain (.integer n)
  | strings (ts : List Text) : IsPlain (.array false (ts.map .string))

theorem quoted_eq_cons (t : Text) : ∃ c r, quoted t = c :: r ∧ (c = '"' ∨ c = '\'') := by
  simp only [quoted]
  split
  · exact ⟨'"', _, rfl, .inl rfl⟩
  · exact ⟨'\'', _, rfl, .inr rfl⟩
  · exact ⟨'"', _, rfl, .inl rfl⟩
  · exact ⟨'\'', _, rfl, .inr rfl⟩

/-- A value that does not start with a bracket is a string or a word. -/
theorem readValue_cons (fuel depth : Nat) {c : Char} (r : Text) (hbracket : c ≠ '[')
    (hbrace : c ≠ '\x7b') : readValue (fuel + 1) depth (c :: r) =
      if c = '"' ∨ c = '\'' then (readString (c :: r)).map fun p => (.string p.1, p.2)
      else readAtom (c :: r) := by
  rw [readValue] <;> intros <;> contradiction

theorem readValue_quoted (fuel depth : Nat) (t : Text) {rest : Text} (h : NoQuote rest) :
    readValue (fuel + 1) depth (quoted t ++ rest) = some (.string t, rest) := by
  have hread := readString_quoted t h
  obtain ⟨c, r, ht, hc⟩ := quoted_eq_cons t
  have hopen : c ≠ '[' ∧ c ≠ '\x7b' := by rcases hc with rfl | rfl <;> decide
  rw [ht, List.cons_append] at hread ⊢
  rw [readValue_cons _ _ _ hopen.1 hopen.2, if_pos hc, hread, Option.map_some]

theorem readValue_word (fuel depth : Nat) {t : Text} {v : Value} (hne : t ≠ [])
    (ht : ∀ c ∈ t, isAtomChar c = true ∧ c ≠ '"' ∧ c ≠ '\'') (h : ofAtom? t = some v)
    (rest : Text) :
    readValue (fuel + 1) depth (t ++ '\n' :: rest) = some (v, '\n' :: rest) := by
  have hread := readAtom_word (fun c hc => (ht c hc).1) h rest
  obtain ⟨c, r, rfl⟩ := List.exists_cons_of_ne_nil hne
  obtain ⟨hatom, hquote⟩ := ht c List.mem_cons_self
  have hopen : c ≠ '[' ∧ c ≠ '\x7b' := by
    constructor <;> rintro rfl <;> exact absurd hatom (by decide)
  rw [List.cons_append] at hread ⊢
  rw [readValue_cons _ _ _ hopen.1 hopen.2, if_neg (not_or.mpr hquote), hread]

/-! ## Arrays of strings -/

theorem skipGap_quoted (t rest : Text) :
    skipGap false (quoted t ++ rest) = some (quoted t ++ rest) := by
  obtain ⟨c, r, ht, hc⟩ := quoted_eq_cons t
  rw [ht, List.cons_append]
  rcases hc with rfl | rfl <;> simp [skipGap, isSpace]

theorem readItems_close (fuel depth : Nat) {text rest : Text}
    (hgap : skipGap false text = some (']' :: rest)) :
    readItems (fuel + 1) depth text = some ([], rest) := by
  simp only [readItems, hgap, Option.bind_eq_bind, Option.bind_some]

/-- A string is read as an item: the last one before a bracket, and one of more before a
comma. -/
theorem readItems_string (fuel depth : Nat) {t text rest : Text} {mark : Char}
    (hmark : mark = ']' ∨ mark = ',')
    (hgap : skipGap false text = some (quoted t ++ mark :: rest)) :
    readItems (fuel + 2) depth text =
      if mark = ']' then some ([.string t], rest)
      else (readItems (fuel + 1) depth rest).map fun p => (.string t :: p.1, p.2) := by
  have hquote : NoQuote (mark :: rest) := by rcases hmark with rfl | rfl <;> simp [NoQuote]
  have hread := readValue_quoted fuel depth t hquote
  obtain ⟨c, r, ht, hc⟩ := quoted_eq_cons t
  have hopen : c ≠ ']' := by rcases hc with rfl | rfl <;> decide
  rw [ht, List.cons_append] at hread hgap
  rw [readItems]
  simp only [hgap, Option.bind_eq_bind, Option.bind_some]
  split
  · next heq => exact absurd (List.cons.inj heq).1 hopen
  · rcases hmark with rfl | rfl <;> simp [hread, skipGap, isSpace]

/-- Items that stand on lines of their own are read back one by one. -/
theorem readItems_lines (depth : Nat) (ts : List Text) (rest : Text) {fuel : Nat}
    (hfuel : ts.length < fuel) :
    readItems fuel depth ('\n' :: ((ts.map quoted).flatMap arrayLine ++ ']' :: rest)) =
      some (ts.map .string, rest) := by
  induction ts generalizing fuel with
  | nil =>
    obtain ⟨fuel, rfl⟩ := Nat.exists_eq_add_one_of_ne_zero (Nat.ne_zero_of_lt hfuel)
    exact readItems_close fuel depth (by simp [skipGap, isSpace])
  | cons t ts ih =>
    obtain ⟨fuel, rfl⟩ : ∃ n, fuel = n + 2 :=
      ⟨fuel - 2, by rw [List.length_cons] at hfuel; omega⟩
    have hgap : skipGap false
        ('\n' :: (((t :: ts).map quoted).flatMap arrayLine ++ ']' :: rest)) =
        some (quoted t ++ ',' :: '\n' :: ((ts.map quoted).flatMap arrayLine ++ ']' :: rest)) := by
      have hquoted := skipGap_quoted t
        (',' :: '\n' :: ((ts.map quoted).flatMap arrayLine ++ ']' :: rest))
      rw [← hquoted]
      simp [arrayLine, skipGap, isSpace]
    rw [readItems_string fuel depth (.inr rfl) hgap, if_neg (by decide),
      ih (Nat.lt_of_succ_lt_succ hfuel)]
    rfl

theorem writtenItems_strings (ts : List Text) :
    writtenItems (ts.map .string) = ts.map quoted := by
  induction ts with
  | nil => rfl
  | cons t ts ih => rw [List.map_cons, List.map_cons, writtenItems, Value.written, ih]

theorem length_le_flatMap_arrayLine (items : List Text) :
    items.length ≤ (items.flatMap arrayLine).length := by
  induction items with
  | nil => exact Nat.zero_le _
  | cons item items ih =>
    rw [List.flatMap_cons, List.length_append, List.length_cons, arrayLine, List.append_assoc,
      List.length_append]
    have hblank : ("    " : Text).length = 4 := rfl
    omega

/-- Between the brackets of a list, in any of its layouts, its items are read back. -/
theorem readItems_written (depth : Nat) (ts : List Text) (rest : Text) :
    ∃ inner, writtenArray (ts.map quoted) = '[' :: (inner ++ [']']) ∧ ts.length ≤ inner.length ∧
      ∀ fuel, ts.length < fuel →
        readItems fuel depth (inner ++ ']' :: rest) = some (ts.map .string, rest) := by
  match ts with
  | [] =>
    refine ⟨[], rfl, Nat.le_refl _, fun fuel hfuel => ?_⟩
    obtain ⟨fuel, rfl⟩ := Nat.exists_eq_add_one_of_ne_zero (Nat.ne_zero_of_lt hfuel)
    exact readItems_close fuel depth (by simp [skipGap, isSpace])
  | [t] =>
    refine ⟨quoted t, rfl, ?_, fun fuel hfuel => ?_⟩
    · obtain ⟨c, r, ht, -⟩ := quoted_eq_cons t
      simp [ht]
    · obtain ⟨fuel, rfl⟩ : ∃ n, fuel = n + 2 :=
        ⟨fuel - 2, by rw [List.length_singleton] at hfuel; omega⟩
      exact readItems_string fuel depth (.inl rfl) (skipGap_quoted t (']' :: rest))
  | t :: u :: ts =>
    refine ⟨'\n' :: ((t :: u :: ts).map quoted).flatMap arrayLine, rfl, ?_, fun fuel hfuel =>
      readItems_lines depth (t :: u :: ts) rest hfuel⟩
    have hlines := length_le_flatMap_arrayLine ((t :: u :: ts).map quoted)
    rw [List.length_map] at hlines
    exact Nat.le_succ_of_le hlines

theorem readValue_array (fuel depth : Nat) (r : Text) :
    readValue (fuel + 1) (depth + 1) ('[' :: r) =
      (readItems fuel depth r).map fun p => (.array false p.1, p.2) := by
  rw [readValue]

theorem written_natural (n : Nat) : (Value.integer n).written = decimal n := by
  rw [Value.written, writtenInteger, if_neg (by omega), Int.natAbs_natCast]

theorem written_eq_cons {v : Value} (h : v.IsPlain) :
    ∃ c r, v.written = c :: r ∧ isSpace c = false := by
  cases h with
  | string t =>
    obtain ⟨c, r, ht, hc⟩ := quoted_eq_cons t
    exact ⟨c, r, by rw [Value.written, ht], by rcases hc with rfl | rfl <;> decide⟩
  | boolean b =>
    cases b with
    | true => exact ⟨'t', _, rfl, by decide⟩
    | false => exact ⟨'f', _, rfl, by decide⟩
  | @integer n =>
    obtain ⟨c, r, ht⟩ := List.exists_cons_of_ne_nil (decimal_ne_nil n)
    have hdigit : isDigitIn 10 c = true :=
      isDigitIn_of_mem_decimal (by rw [ht]; exact List.mem_cons_self)
    exact ⟨c, r, by rw [written_natural, ht],
      isSpace_eq_false hdigit (by decide) (by decide)⟩
  | strings ts =>
    obtain ⟨inner, hwritten, -⟩ := readItems_written 0 ts []
    exact ⟨'[', _, by rw [Value.written, writtenItems_strings, hwritten], by decide⟩

theorem skipSpaces_written {v : Value} (h : v.IsPlain) (rest : Text) :
    skipSpaces (' ' :: (v.written ++ rest)) = v.written ++ rest := by
  obtain ⟨c, r, hv, hc⟩ := written_eq_cons h
  rw [hv, List.cons_append, skipSpaces, List.dropWhile_cons_of_pos (by decide)]
  exact skipSpaces_cons hc (r ++ rest)

theorem readValue_written {v : Value} (h : v.IsPlain) (rest : Text) :
    readValue ((v.written ++ '\n' :: rest).length + 1) maxDepth (v.written ++ '\n' :: rest) =
      some (v, '\n' :: rest) := by
  cases h with
  | string t =>
    rw [Value.written]
    exact readValue_quoted _ _ t (by simp [NoQuote])
  | boolean b =>
    rw [Value.written]
    cases b with
    | true =>
      exact readValue_word _ _ (by decide) (by decide) rfl rest
    | false =>
      exact readValue_word _ _ (by decide) (by decide) rfl rest
  | @integer n h =>
    rw [written_natural]
    refine readValue_word _ _ (decimal_ne_nil n) (fun c hc => ?_) (ofAtom?_decimal h) rest
    have hdigit := isDigitIn_of_mem_decimal hc
    exact ⟨isAtomChar_of_digit hdigit, ne_of_holds hdigit (by decide),
      ne_of_holds hdigit (by decide)⟩
  | strings ts =>
    obtain ⟨inner, hwritten, hlength, hitems⟩ :=
      readItems_written (maxDepth - 1) ts ('\n' :: rest)
    have htext : (Value.array false (ts.map .string)).written ++ '\n' :: rest =
        '[' :: (inner ++ ']' :: '\n' :: rest) := by
      rw [Value.written, writtenItems_strings, hwritten]
      simp
    have hfuel : ts.length < ('[' :: (inner ++ ']' :: '\n' :: rest)).length := by
      rw [List.length_cons, List.length_append]
      omega
    rw [htext]
    exact (readValue_array _ (maxDepth - 1) _).trans (by rw [hitems _ hfuel, Option.map_some])

end Toml

end MarkupCompletion
