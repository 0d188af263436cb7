import MarkupCompletion.Proofs.Toml.Escape
import Mathlib.Data.List.TakeWhile

/-
  Strings read back as they were written.

  Inside double quotes reading goes along with writing, character by character. In triple quotes
  the string ends where nothing but quotes is left of it before the closing three
  (`closing?_append`): of what is written no three quotes stand in a row, neither where quotes are
  escaped (`takeWhile_escape`) nor where the choice of form rules them out
  (`takeWhile_of_hasTriple`). That single quotes can hold their string as it is follows from that
  choice too (`of_formOf_literal`, `of_formOf_multilineLiteral`). So a string is read back whatever
  it holds, if the text after it does not start with a quote (`readString_quoted`).
-/

namespace MarkupCompletion

namespace Toml

/-- Whether a text may come after a string: a quote would be taken for part of it. -/
def NoQuote (t : Text) : Prop := t.head? ≠ some '"' ∧ t.head? ≠ some '\''

/-! ## Double quotes -/

theorem readBasic_quote (r : Text) : readBasic ('"' :: r) = some ([], r) := by
  rw [readBasic, if_pos rfl]

theorem readBasic_stands {c : Char} {e : Text} (h : Stands false c e) (r : Text)
    (hquote : e.head? ≠ some '"') :
    readBasic (e ++ r) = (readBasic r).map fun p => (c :: p.1, p.2) := by
  cases h with
  | plain hslash hcontrol =>
    have hc : c ≠ '"' := by simpa using hquote
    have hcontrol : ¬isControl c = true := fun h => absurd (hcontrol h).1 (by decide)
    rw [List.singleton_append, readBasic, if_neg hc, if_neg hslash, if_neg hcontrol]
  | escaped e hread hjoin =>
    rw [List.cons_append, readBasic, if_neg (by decide), if_pos rfl]
    split
    · next hnone => rw [hread] at hnone; cases hnone
    · next x r' hsome =>
      rw [hread] at hsome
      cases hsome
      rfl

theorem readBasic_escape (t rest : Text) :
    readBasic (escape false 0 t ++ '"' :: rest) = some (t, rest) := by
  induction t with
  | nil => exact readBasic_quote rest
  | cons c t ih =>
    obtain ⟨e, run, he, hstands, hrun, hquote⟩ := escape_cons false 0 c t
    obtain rfl : run = 0 := Nat.le_zero.mp hrun
    rw [he, List.append_assoc, readBasic_stands hstands _ (fun h => by cases hquote h), ih,
      Option.map_some]

/-! ## Single quotes -/

theorem readLiteral_append (t rest : Text) (h : ∀ c ∈ t, c ≠ '\'' ∧ isControl c = false) :
    readLiteral (t ++ '\'' :: rest) = some (t, rest) := by
  induction t with
  | nil => rw [List.nil_append, readLiteral, if_pos rfl]
  | cons c t ih =>
    obtain ⟨⟨hquote, hcontrol⟩, ht⟩ := List.forall_mem_cons.mp h
    rw [List.cons_append, readLiteral, if_neg hquote, if_neg (by simp [hcontrol]), ih ht,
      Option.map_some]

/-! ## Triple quotes -/

/-- The end of a string in triple quotes is where nothing but quotes is left of it, as long as
no three of those stand in a row. -/
theorem closing?_append {q : Char} {u rest : Text} (hu : (u.takeWhile (· == q)).length ≤ 2)
    (hrest : rest.head? ≠ some q) :
    closing? q (u ++ q :: q :: q :: rest) = if u.all (· == q) then some (u, rest) else none := by
  have hquotes : (q :: q :: q :: rest).takeWhile (· == q) = [q, q, q] := by
    cases rest with
    | nil => simp
    | cons x r =>
      have hx : (x == q) = false := by simpa using hrest
      simp [hx]
  -- the closing three add to the quotes at the start only where those are all of the string
  by_cases hall : ∀ x ∈ u, (x == q) = true
  · have hself : u.takeWhile (· == q) = u := List.takeWhile_eq_self_iff.mpr hall
    rw [hself] at hu
    have hsame : List.replicate u.length q = u :=
      (List.eq_replicate_of_mem fun x hx => eq_of_beq (hall x hx)).symm
    have hrun : (u ++ q :: q :: q :: rest).takeWhile (· == q) = u ++ [q, q, q] := by
      rw [List.takeWhile_append, if_pos (by rw [hself]), hquotes]
    have hcount : min 5 (u ++ [q, q, q]).length = u.length + 3 := by
      simp only [List.length_append, List.length_cons, List.length_nil]
      omega
    have hdrop : (u ++ q :: q :: q :: rest).drop (u.length + 3) = rest := by
      rw [← List.drop_drop, List.drop_left]
      rfl
    rw [if_pos (List.all_eq_true.mpr hall)]
    simp only [closing?, hrun, hcount, hdrop, Nat.add_sub_cancel, hsame]
    rw [if_neg (by omega)]
  · have hshort : (u.takeWhile (· == q)).length ≠ u.length := fun h =>
      hall (List.takeWhile_eq_self_iff.mp ((List.takeWhile_prefix _).eq_of_length h))
    have hrun : (u ++ q :: q :: q :: rest).takeWhile (· == q) = u.takeWhile (· == q) := by
      rw [List.takeWhile_append, if_neg hshort]
    rw [if_neg (by rwa [List.all_eq_true])]
    simp only [closing?, hrun]
    rw [if_pos (by omega)]

theorem length_le_escape (lines : Bool) (run : Nat) (t : Text) :
    t.length ≤ (escape lines run t).length := by
  induction t generalizing run with
  | nil => exact Nat.zero_le _
  | cons c t ih =>
    obtain ⟨e, run', he, hstands, -⟩ := escape_cons lines run c t
    have hrest := ih run'
    rw [he, List.length_append, List.length_cons]
    cases hstands with
    | plain => rw [List.length_singleton]; omega
    | escaped e => rw [List.length_cons]; omega

/-- Of what is written in triple quotes, no three quotes stand in a row. -/
theorem takeWhile_escape (t : Text) {run : Nat} (hrun : run ≤ 2) :
    run + ((escape true run t).takeWhile (· == '"')).length ≤ 2 := by
  induction t generalizing run with
  | nil => simpa [escape] using hrun
  | cons c t ih =>
    obtain ⟨e, run', he, hstands, hrun', hquote⟩ := escape_cons true run c t
    have hrest := ih hrun'
    rw [he]
    cases hstands with
    | plain =>
      by_cases hc : c = '"'
      · subst hc
        obtain rfl : run' = run + 1 := hquote rfl
        rw [List.singleton_append, List.takeWhile_cons_of_pos rfl, List.length_cons]
        omega
      · rw [List.singleton_append, List.takeWhile_cons_of_neg (by simp [hc]), List.length_nil]
        exact hrun
    | escaped e => rwa [List.cons_append, List.takeWhile_cons_of_neg (by decide), List.length_nil]

theorem escape_eq_self (t : Text) {run : Nat} (h : (escape true run t).all (· == '"') = true) :
    escape true run t = t := by
  induction t generalizing run with
  | nil => rfl
  | cons c t ih =>
    obtain ⟨e, run', he, hstands, hrun', hquote⟩ := escape_cons true run c t
    rw [he, List.all_append, Bool.and_eq_true] at h
    obtain ⟨he', ht⟩ := h
    rw [he, ih ht]
    cases hstands with
    | plain => rfl
    | escaped e => simp at he'

theorem isMultiline_of_control {c : Char} (r : Text) (h : isControl c = true → c = '\n') :
    isMultiline c r = true := by
  by_cases hcontrol : isControl c = true
  · rw [h hcontrol]
    rfl
  · have hreturn : c ≠ '\r' := by
      rintro rfl
      exact hcontrol rfl
    simp [isMultiline, hreturn, hcontrol]

theorem readMultilineBasic_closing {t : Text} {e : Text × Text} (h : closing? '"' t = some e)
    (fuel : Nat) : readMultilineBasic (fuel + 1) t = some e := by
  cases t with
  | nil => cases h
  | cons c r => simp only [readMultilineBasic, h]

/-- A character is read in the way in which it stands, unless the string ends before it. -/
theorem readMultilineBasic_stands {c : Char} {e : Text} (h : Stands true c e) (r : Text)
    (hopen : closing? '"' (e ++ r) = none) (fuel : Nat) :
    readMultilineBasic (fuel + 1) (e ++ r) =
      (readMultilineBasic fuel r).map fun p => (c :: p.1, p.2) := by
  cases h with
  | plain hslash hcontrol =>
    have hlines : isMultiline c r = true := isMultiline_of_control r fun h => (hcontrol h).2
    rw [List.singleton_append] at hopen ⊢
    simp only [readMultilineBasic, hopen, if_neg hslash, if_pos hlines]
  | escaped e hread hjoin =>
    rw [List.cons_append] at hopen ⊢
    simp only [readMultilineBasic, hopen, hjoin, hread, Option.bind_eq_bind, Option.bind_some]
    rfl

/-- A string in triple double quotes is read back, whatever it holds. -/
theorem readMultilineBasic_escape (t : Text) {rest : Text} (hrest : rest.head? ≠ some '"')
    {run fuel : Nat} (hrun : run ≤ 2) (hfuel : t.length < fuel) :
    readMultilineBasic fuel (escape true run t ++ '"' :: '"' :: '"' :: rest) =
      some (t, rest) := by
  induction t generalizing run fuel with
  | nil =>
    obtain ⟨fuel, rfl⟩ := Nat.exists_eq_add_of_lt hfuel
    exact readMultilineBasic_closing (closing?_append (u := []) (Nat.zero_le _) hrest) _
  | cons c t ih =>
    obtain ⟨fuel, rfl⟩ := Nat.exists_eq_add_one_of_ne_zero (Nat.ne_zero_of_lt hfuel)
    have hshort := takeWhile_escape (c :: t) hrun
    have hend := closing?_append (u := escape true run (c :: t)) (by omega) hrest
    -- the string ends here if it has quotes alone, else one character of it is read
    split at hend
    · next hall =>
      rw [escape_eq_self _ hall] at hend ⊢
      exact readMultilineBasic_closing hend fuel
    · obtain ⟨e, run', he, hstands, hrun', -⟩ := escape_cons true run c t
      rw [he, List.append_assoc] at hend ⊢
      rw [readMultilineBasic_stands hstands _ hend, ih hrun' (Nat.lt_of_succ_lt_succ hfuel),
        Option.map_some]

/-! ## Triple single quotes -/

theorem takeWhile_of_hasTriple {q : Char} {t : Text} (h : hasTriple q t = false) :
    (t.takeWhile (· == q)).length ≤ 2 := by
  match t with
  | [] => simp
  | [a] | [a, b] => exact (List.takeWhile_prefix _).length_le.trans (by simp)
  | a :: b :: c :: r =>
    by_cases ha : a = q
    · by_cases hb : b = q
      · have hc : c ≠ q := by
          rintro rfl
          simp [hasTriple, ha, hb] at h
        simp [ha, hb, hc]
      · simp [ha, hb]
    · simp [ha]

/-- A string in triple single quotes is read back if it holds nothing that needs an escape. -/
theorem readMultilineLiteral_append (t : Text) {rest : Text} (hrest : rest.head? ≠ some '\'')
    (htriple : hasTriple '\'' t = false) (hcontrol : ∀ c ∈ t, isControl c = true → c = '\n') :
    readMultilineLiteral (t ++ '\'' :: '\'' :: '\'' :: rest) = some (t, rest) := by
  have hend := closing?_append (takeWhile_of_hasTriple htriple) hrest
  induction t with
  | nil =>
    rw [List.all_nil, if_pos rfl, List.nil_append] at hend
    rw [List.nil_append, readMultilineLiteral, hend]
  | cons c t ih =>
    obtain ⟨hc, ht⟩ := List.forall_mem_cons.mp hcontrol
    rw [hasTriple, Bool.or_eq_false_iff] at htriple
    rw [List.cons_append] at hend ⊢
    split at hend
    · rw [readMultilineLiteral, hend]
    · simp only [readMultilineLiteral, hend]
      rw [if_pos (isMultiline_of_control _ hc),
        ih htriple.2 ht (closing?_append (takeWhile_of_hasTriple htriple.2) hrest),
        Option.map_some]

/-! ## All forms -/

theorem not_control_of_any {t : Text} (h : (t.any fun c => isControl c && c != '\n') = false) :
    ∀ c ∈ t, isControl c = true → c = '\n' := by
  intro c hc hcontrol
  simpa [hcontrol] using List.any_eq_false.mp h c hc

/-- A string in single quotes holds neither those nor characters that need an escape. -/
theorem of_formOf_literal {t : Text} (h : formOf t = .literal) :
    t ≠ [] ∧ ∀ c ∈ t, c ≠ '\'' ∧ isControl c = false := by
  simp only [formOf] at h
  split_ifs at h with hbasic hliteral
  simp only [Bool.and_eq_true, Bool.not_eq_true', List.contains_eq_mem,
    decide_eq_false_iff_not] at hliteral
  obtain ⟨⟨hcodes, hlines⟩, hquotes⟩ := hliteral
  refine ⟨fun hnil => hbasic (by rw [hnil]; rfl), fun c hc => ⟨?_, ?_⟩⟩
  · rintro rfl
    exact hquotes hc
  · by_contra hcontrol
    obtain rfl := not_control_of_any hcodes c hc (by simpa using hcontrol)
    exact hlines hc

/-- A string in triple single quotes holds neither those nor characters that need an escape. -/
theorem of_formOf_multilineLiteral {t : Text} (h : formOf t = .multilineLiteral) :
    hasTriple '\'' t = false ∧ ∀ c ∈ t, isControl c = true → c = '\n' := by
  simp only [formOf] at h
  split_ifs at h with _ _ _ hform
  rw [Bool.and_eq_true, Bool.not_eq_true', Bool.not_eq_true'] at hform
  exact ⟨hform.2, not_control_of_any hform.1⟩

theorem readString_basic {t : Text} (h : ∀ r, t ≠ '"' :: '"' :: r) :
    readString ('"' :: t) = readBasic t := by
  unfold readString
  split
  · next r heq => exact absurd (List.cons.inj heq).2 (h r)
  · next r _ heq => rw [(List.cons.inj heq).2]
  · next heq => cases heq
  · next heq => cases heq
  · next hother _ _ => exact absurd rfl (hother t)

theorem readString_literal {t : Text} (h : ∀ r, t ≠ '\'' :: '\'' :: r) :
    readString ('\'' :: t) = readLiteral t := by
  unfold readString
  split
  · next heq => cases heq
  · next heq => cases heq
  · next r heq => exact absurd (List.cons.inj heq).2 (h r)
  · next r _ heq => rw [(List.cons.inj heq).2]
  · next hother => exact absurd rfl (hother t)

/-- A line end after triple quotes is passed over, and there is one if the string has any. -/
theorem dropNewline_lead (t : Text) {u : Text}
    (h : '\n' ∉ t → u.head? ≠ some '\n' ∧ u.head? ≠ some '\r') :
    dropNewline ((if t.contains '\n' then ['\n'] else []) ++ u) = u := by
  by_cases hlines : '\n' ∈ t
  · rw [if_pos (List.contains_iff_mem.mpr hlines)]
    rfl
  · obtain ⟨hn, hr⟩ := h hlines
    rw [if_neg (by rwa [List.contains_iff_mem]), List.nil_append]
    unfold dropNewline
    split
    · exact absurd rfl hn
    · exact absurd rfl hr
    · rfl

/-- What is written in triple quotes starts with a line end only if the string has one. -/
theorem head?_escape {t : Text} (r : Text) (hlines : '\n' ∉ t) :
    (escape true 0 t ++ '"' :: r).head? ≠ some '\n' ∧
      (escape true 0 t ++ '"' :: r).head? ≠ some '\r' := by
  cases t with
  | nil => simp [escape]
  | cons c t =>
    obtain ⟨e, run, he, hstands, -⟩ := escape_cons true 0 c t
    have hn : c ≠ '\n' := fun h => hlines (h ▸ List.mem_cons_self)
    rw [he]
    cases hstands with
    | plain hslash hcontrol =>
      have hr : c ≠ '\r' := by
        rintro rfl
        exact absurd (hcontrol rfl).2 (by decide)
      simp [hn, hr]
    | escaped e => simp

/-- A string that needs no escape starts with a line end only if it has one. -/
theorem head?_append_of_control {t : Text} (r : Text)
    (hcontrol : ∀ c ∈ t, isControl c = true → c = '\n') (hlines : '\n' ∉ t) :
    (t ++ '\'' :: r).head? ≠ some '\n' ∧ (t ++ '\'' :: r).head? ≠ some '\r' := by
  cases t with
  | nil => simp
  | cons c t =>
    have hn : c ≠ '\n' := fun h => hlines (h ▸ List.mem_cons_self)
    have hr : c ≠ '\r' := by
      rintro rfl
      exact absurd (hcontrol '\r' List.mem_cons_self rfl) (by decide)
    simp [hn, hr]

/-- An empty string in double quotes is not the start of triple ones, nor is any other. -/
theorem not_triple_escape (t : Text) {rest : Text} (hrest : rest.head? ≠ some '"') (r : Text) :
    escape false 0 t ++ '"' :: rest ≠ '"' :: '"' :: r := by
  intro h
  cases t with
  | nil => exact hrest (by rw [(List.cons.inj h).2]; rfl)
  | cons c t =>
    obtain ⟨e, run, he, hstands, hrun, hquote⟩ := escape_cons false 0 c t
    rw [he] at h
    cases hstands with
    | plain =>
      obtain rfl : run = 0 + 1 := hquote (congrArg some (List.cons.inj h).1)
      exact absurd hrun (by decide)
    | escaped e => exact absurd (List.cons.inj h).1 (by decide)

theorem readString_quoted (t : Text) {rest : Text} (hrest : NoQuote rest) :
    readString (quoted t ++ rest) = some (t, rest) := by
  obtain ⟨hdouble, hsingle⟩ := hrest
  simp only [quoted]
  split
  · simp only [List.append_assoc]
    exact (readString_basic (not_triple_escape t hdouble)).trans (readBasic_escape t rest)
  · next hform =>
    obtain ⟨hne, hall⟩ := of_formOf_literal hform
    have hopen : ∀ r, t ++ '\'' :: rest ≠ '\'' :: '\'' :: r := by
      obtain ⟨c, u, rfl⟩ := List.exists_cons_of_ne_nil hne
      exact fun r h => (hall c List.mem_cons_self).1 (List.cons.inj h).1
    simp only [List.append_assoc]
    exact (readString_literal hopen).trans (readLiteral_append t rest hall)
  · have hlead := dropNewline_lead t (head?_escape (t := t) ('"' :: '"' :: rest))
    have hfuel : t.length < ((if t.contains '\n' then ['\n'] else []) ++
        (escape true 0 t ++ '"' :: '"' :: '"' :: rest)).length + 1 := by
      have hlength := length_le_escape true 0 t
      simp only [List.length_append]
      omega
    simp only [List.append_assoc]
    exact (congrArg (readMultilineBasic _) hlead).trans
      (readMultilineBasic_escape t hdouble (Nat.zero_le 2) hfuel)
  · next hform =>
    obtain ⟨htriple, hcontrol⟩ := of_formOf_multilineLiteral hform
    have hlead := dropNewline_lead t (head?_append_of_control ('\'' :: '\'' :: rest) hcontrol)
    simp only [List.append_assoc]
    exact (congrArg readMultilineLiteral hlead).trans
      (readMultilineLiteral_append t hsingle htriple hcontrol)

/-- Of the quotes at the end the first belongs to the string. -/
example : quoted "C:\\'" = "'''C:\\''''" := by decide

end Toml

end MarkupCompletion
