import MarkupCompletion.Proofs.Markup.Characters
import MarkupCompletion.Markup.Doctype
import Mathlib.Data.List.TakeWhile

/-
  Doctypes as they are written and read.

  The body of a declaration is read word by word: blanks lead to the next word
  (`words_blank`), and a bare word or a quoted string is one word whatever follows it
  (`words_bare`, `words_quoted`). So a doctype whose root is one bare word and whose
  identifiers hold no double quote is read back from the declaration that is written
  for it (`parse_body`). Other bodies are read too, and of no body more is read than bare
  words and strings without the quote around them (`isWord_of_mem_words`), so that what
  is read can always stand in a declaration (`parse_isReadable`).
-/

namespace MarkupCompletion

namespace Doctype

/-- Whether the declaration written for a doctype says what the doctype is: its root is
one bare word and its identifiers can stand in double quotes. -/
structure WellFormed (d : Doctype) : Prop where
  root_ne_nil : d.root ≠ []
  root_bare : ∀ c ∈ d.root, isBare c = true
  publicId : ∀ id ∈ d.publicId, '"' ∉ id
  systemId : ∀ id ∈ d.systemId, '"' ∉ id

instance (d : Doctype) : Decidable d.WellFormed :=
  decidable_of_iff
    (d.root ≠ [] ∧ (∀ c ∈ d.root, isBare c = true) ∧ (∀ id ∈ d.publicId, '"' ∉ id) ∧
      ∀ id ∈ d.systemId, '"' ∉ id)
    ⟨fun ⟨hne, hroot, hpublic, hsystem⟩ => ⟨hne, hroot, hpublic, hsystem⟩,
      fun h => ⟨h.root_ne_nil, h.root_bare, h.publicId, h.systemId⟩⟩

/-! ## Words -/

variable {c : Char} {t w x rest : Text}

theorem isBare_iff : isBare c = true ↔ isBlank c = false ∧ isQuote c = false := by
  simp only [isBare, Bool.and_eq_true, Bool.not_eq_true']

theorem words_eq (body : Text) :
    words body =
      match body.dropWhile isBlank with
      | [] => []
      | c :: cs =>
        if isQuote c then
          .quoted (cs.takeWhile fun x => x != c) :: words ((cs.dropWhile fun x => x != c).drop 1)
        else .bare (c :: cs.takeWhile isBare) :: words (cs.dropWhile isBare) := by
  rw [words]
  split
  · next h => simp only [h]
  · next h => simp only [h]

theorem words_nil : words [] = [] := words_eq []

theorem words_blank (h : isBlank c = true) : words (c :: t) = words t := by
  rw [words_eq, words_eq t, List.dropWhile_cons, if_pos h]

theorem words_cons (h : isBlank c = false) :
    words (c :: t) =
      if isQuote c then
        .quoted (t.takeWhile fun x => x != c) :: words ((t.dropWhile fun x => x != c).drop 1)
      else .bare (c :: t.takeWhile isBare) :: words (t.dropWhile isBare) := by
  rw [words_eq, List.dropWhile_cons, if_neg (by rw [h]; exact Bool.false_ne_true)]

theorem words_quoted (q : Quote) (hx : q.char ∉ x) :
    words (q.char :: (x ++ q.char :: rest)) = .quoted x :: words rest := by
  have hblank : isBlank q.char = false := by cases q <;> rfl
  have hquote : isQuote q.char = true := by cases q <;> rfl
  have hinside : ∀ c ∈ x, (c != q.char) = true := by
    intro c hc
    rw [bne_iff_ne]
    rintro rfl
    exact hx hc
  rw [words_cons hblank, if_pos hquote, List.takeWhile_append_of_pos hinside,
    List.dropWhile_append_of_pos hinside]
  simp

theorem words_bare (hne : w ≠ []) (hw : ∀ c ∈ w, isBare c = true)
    (hrest : ∀ c ∈ rest.head?, isBare c = false) :
    words (w ++ rest) = .bare w :: words rest := by
  cases w with
  | nil => exact absurd rfl hne
  | cons c t =>
    obtain ⟨hblank, hquote⟩ := isBare_iff.1 (hw c List.mem_cons_self)
    have ht : ∀ d ∈ t, isBare d = true := fun d hd => hw d (List.mem_cons_of_mem c hd)
    have hstop : rest.takeWhile isBare = [] ∧ rest.dropWhile isBare = rest := by
      cases rest with
      | nil => exact ⟨rfl, rfl⟩
      | cons d rest =>
        have hd : isBare d = false := hrest d rfl
        simp [hd]
    rw [List.cons_append, words_cons hblank, if_neg (by rw [hquote]; exact Bool.false_ne_true),
      List.takeWhile_append_of_pos ht, List.dropWhile_append_of_pos ht, hstop.1, hstop.2,
      List.append_nil]

/-! ## Declarations -/

theorem words_quotedId {id : Text} (h : '"' ∉ id) (rest : Text) :
    words (quotedId id ++ rest) = .quoted id :: words rest := by
  have hwritten : quotedId id ++ rest = ' ' :: '"' :: (id ++ '"' :: rest) := by
    simp [quotedId]
  rw [hwritten, words_blank rfl]
  exact words_quoted .double h

theorem words_keyword {keyword id : Text} (hne : keyword ≠ [])
    (hkeyword : ∀ c ∈ keyword, isBare c = true) (h : '"' ∉ id) (rest : Text) :
    words (' ' :: keyword ++ (quotedId id ++ rest)) =
      .bare keyword :: .quoted id :: words rest := by
  rw [List.cons_append, words_blank rfl, words_bare hne hkeyword, words_quotedId h rest]
  rintro c ⟨⟩
  rfl

def idWords (d : Doctype) : List Word :=
  match d.publicId, d.systemId with
  | some p, some s => [.bare "PUBLIC", .quoted p, .quoted s]
  | some p, none => [.bare "PUBLIC", .quoted p]
  | none, some s => [.bare "SYSTEM", .quoted s]
  | none, none => []

theorem words_writtenIds {d : Doctype} (h : d.WellFormed) : words d.writtenIds = d.idWords := by
  obtain ⟨root, publicId, systemId⟩ := d
  have hpublic : ∀ p ∈ publicId, '"' ∉ p := h.publicId
  have hsystem : ∀ s ∈ systemId, '"' ∉ s := h.systemId
  have keyword (k id : Text) (hne : k ≠ []) (hk : ∀ c ∈ k, isBare c = true) (hid : '"' ∉ id) :
      words (' ' :: k ++ quotedId id) = [.bare k, .quoted id] := by
    have hall := words_keyword hne hk hid []
    rwa [words_nil, List.append_nil] at hall
  cases publicId with
  | some p =>
    cases systemId with
    | some s =>
      have hlast : words (quotedId s) = [.quoted s] := by
        have hall := words_quotedId (hsystem s rfl) []
        rwa [List.append_nil, words_nil] at hall
      have hall :
          words (' ' :: "PUBLIC" ++ (quotedId p ++ quotedId s)) =
            .bare "PUBLIC" :: .quoted p :: words (quotedId s) :=
        words_keyword (by decide) (by decide) (hpublic p rfl) (quotedId s)
      rwa [hlast, ← List.append_assoc] at hall
    | none => exact keyword "PUBLIC" p (by decide) (by decide) (hpublic p rfl)
  | none =>
    cases systemId with
    | some s => exact keyword "SYSTEM" s (by decide) (by decide) (hsystem s rfl)
    | none => exact words_nil

theorem readIds_public (d : Doctype) (ws : List Word) :
    readIds d (.bare "PUBLIC" :: ws) =
      readIds
        { d with
          publicId := (ws[0]?.bind Word.literal?) <|> d.publicId
          systemId := (ws[1]?.bind Word.literal?) <|> d.systemId }
        (ws.drop 2) := by
  rw [readIds, if_pos (Text.sameAscii_refl _)]

theorem readIds_system (d : Doctype) (ws : List Word) :
    readIds d (.bare "SYSTEM" :: ws) =
      readIds { d with systemId := (ws[0]?.bind Word.literal?) <|> d.systemId } (ws.drop 1) := by
  rw [readIds, if_neg (by decide), if_pos (Text.sameAscii_refl _)]

theorem readIds_idWords (d : Doctype) : readIds { root := d.root } d.idWords = d := by
  obtain ⟨root, publicId, systemId⟩ := d
  cases publicId with
  | some p =>
    cases systemId <;> exact (readIds_public _ _).trans (by simp [readIds, Word.literal?])
  | none =>
    cases systemId with
    | some s => exact (readIds_system _ _).trans (by simp [readIds, Word.literal?])
    | none => exact readIds.eq_1 _

theorem parse_body {d : Doctype} (h : d.WellFormed) : parse d.body = d := by
  have hrest : ∀ c ∈ d.writtenIds.head?, isBare c = false := by
    obtain ⟨root, publicId, systemId⟩ := d
    cases publicId <;> cases systemId <;> rintro c ⟨⟩ <;> rfl
  rw [parse, body, words_bare h.root_ne_nil h.root_bare hrest, words_writtenIds h]
  exact readIds_idWords d

/-! ## Any body -/

/-- Whether quotes of one kind can be put around a text. -/
def IsQuotable (t : Text) : Prop := '"' ∉ t ∨ '\'' ∉ t

instance (t : Text) : Decidable (IsQuotable t) := inferInstanceAs (Decidable (_ ∨ _))

/-- Whether the root of a doctype is one bare word, or none, and its identifiers can
stand in quotes. -/
structure IsReadable (d : Doctype) : Prop where
  root_bare : ∀ c ∈ d.root, isBare c = true
  publicId : ∀ id ∈ d.publicId, IsQuotable id
  systemId : ∀ id ∈ d.systemId, IsQuotable id

def IsWord : Word → Prop
  | .bare t => ∀ c ∈ t, isBare c = true
  | .quoted t => IsQuotable t

theorem isQuotable_takeWhile (t : Text) (h : isQuote c = true) :
    IsQuotable (t.takeWhile fun x => x != c) := by
  have hc : c ∉ t.takeWhile fun x => x != c := by
    intro hmem
    have hne := List.mem_takeWhile_imp hmem
    simp at hne
  simp only [isQuote, Bool.or_eq_true, beq_iff_eq] at h
  rcases h with rfl | rfl
  · exact Or.inl hc
  · exact Or.inr hc

/-- Every word of a body is a word: a quoted string ends with the quote it began with. -/
theorem isWord_of_mem_words (body : Text) : ∀ w ∈ words body, IsWord w := by
  induction body using words.induct with
  | case1 body h =>
    rw [words_eq, h]
    simp
  | case2 body c cs h _ hquote _ _ ih =>
    rw [words_eq, h]
    simp only [hquote, if_true, List.forall_mem_cons]
    exact ⟨isQuotable_takeWhile cs hquote, ih⟩
  | case3 body c cs h _ hquote _ ih =>
    have hblank : isBlank c = false := by
      have hhead := List.head_dropWhile_not isBlank (l := body) (by simp [h])
      simpa [h] using hhead
    have hbare : isBare c = true := isBare_iff.2 ⟨hblank, by simpa using hquote⟩
    rw [words_eq, h]
    simp only [hquote, Bool.false_eq_true, if_false, List.forall_mem_cons]
    refine ⟨?_, ih⟩
    intro d hd
    rcases List.mem_cons.1 hd with rfl | hd
    · exact hbare
    · exact List.mem_takeWhile_imp hd

/-- What a word gives as an identifier can stand in quotes, and so can what was there. -/
theorem isQuotable_literal? {ws : List Word} (hws : ∀ w ∈ ws, IsWord w) (i : Nat)
    {known : Option Text} (hknown : ∀ id ∈ known, IsQuotable id) :
    ∀ id ∈ (ws[i]?.bind Word.literal?) <|> known, IsQuotable id := by
  intro id hid
  cases hword : ws[i]? with
  | none =>
    rw [hword] at hid
    exact hknown id hid
  | some w =>
    rw [hword] at hid
    cases w with
    | bare t => exact hknown id hid
    | quoted t =>
      cases hid
      exact hws (.quoted id) (List.mem_of_getElem? hword)

theorem isReadable_readIds {d : Doctype} {ws : List Word} (h : d.IsReadable)
    (hws : ∀ w ∈ ws, IsWord w) : (readIds d ws).IsReadable := by
  induction d, ws using readIds.induct with
  | case1 d =>
    rw [readIds]
    exact h
  | case2 d t rest ih =>
    rw [readIds]
    exact ih h fun w hw => hws w (List.mem_cons_of_mem _ hw)
  | case3 d keyword rest hpublic d' ih =>
    have hrest : ∀ w ∈ rest, IsWord w := fun w hw => hws w (List.mem_cons_of_mem _ hw)
    rw [readIds, if_pos hpublic]
    apply ih
    · exact ⟨h.root_bare, isQuotable_literal? hrest 0 h.publicId,
        isQuotable_literal? hrest 1 h.systemId⟩
    · exact fun w hw => hrest w (List.mem_of_mem_drop hw)
  | case4 d keyword rest hpublic hsystem ih =>
    have hrest : ∀ w ∈ rest, IsWord w := fun w hw => hws w (List.mem_cons_of_mem _ hw)
    rw [readIds, if_neg hpublic, if_pos hsystem]
    apply ih
    · exact ⟨h.root_bare, h.publicId, isQuotable_literal? hrest 0 h.systemId⟩
    · exact fun w hw => hrest w (List.mem_of_mem_drop hw)
  | case5 d keyword rest hpublic hsystem ih =>
    rw [readIds, if_neg hpublic, if_neg hsystem]
    exact ih h fun w hw => hws w (List.mem_cons_of_mem _ hw)

/-- Whatever a body is, what is read of it can stand in a declaration. -/
theorem parse_isReadable (body : Text) : (parse body).IsReadable := by
  have hwords := isWord_of_mem_words body
  have hnothing : ∀ id ∈ (none : Option Text), IsQuotable id := by simp
  rw [parse]
  cases hw : words body with
  | nil => exact ⟨by simp, hnothing, hnothing⟩
  | cons w rest =>
    rw [hw, List.forall_mem_cons] at hwords
    obtain ⟨hfirst, hrest⟩ := hwords
    cases w with
    | bare root => exact isReadable_readIds ⟨hfirst, hnothing, hnothing⟩ hrest
    | quoted t => exact isReadable_readIds ⟨by simp, hnothing, hnothing⟩ hrest

/-- **Reading undoes writing.** A doctype whose root is one bare word, and whose
identifiers hold no double quote, is read back from what stands in its declaration
between the keyword and the last `>`. And of whatever body, the root that is read is free
of blanks and quotes, and each identifier lacks one kind of quotes. -/
theorem parse_undoes_written :
    (∀ d : Doctype, d.WellFormed →
      ∃ body : Text, d.written = "<!DOCTYPE " ++ body ++ ">" ∧ parse body = d) ∧
    ∀ body : Text,
      (∀ c ∈ (parse body).root, isBlank c = false ∧ isQuote c = false) ∧
      (∀ id ∈ (parse body).publicId, '"' ∉ id ∨ '\'' ∉ id) ∧
      ∀ id ∈ (parse body).systemId, '"' ∉ id ∨ '\'' ∉ id := by
  constructor
  · intro d hd
    exact ⟨d.body, rfl, parse_body hd⟩
  · intro body
    have hread := parse_isReadable body
    exact ⟨fun c hc => isBare_iff.1 (hread.root_bare c hc), hread.publicId, hread.systemId⟩

/-- Keywords as the root and inside an identifier, an empty identifier, and a body in
which keywords are out of place and a quote of the other kind is open at the end. -/
theorem parse_undoes_written_among_keywords :
    let d : Doctype :=
      { root := "PUBLIC", publicId := some "SYSTEM 'x' >", systemId := some "" }
    let stray := parse "a SYSTEM PUBLIC 'x\"' public \"y'"
    d.WellFormed ∧
    (∃ body : Text, d.written = "<!DOCTYPE " ++ body ++ ">" ∧ parse body = d) ∧
    stray = { root := "a", publicId := some "y'" } ∧
    ∀ id ∈ stray.publicId, '"' ∉ id ∨ '\'' ∉ id := by
  intro d stray
  have hd : d.WellFormed := by decide +kernel
  exact ⟨hd, parse_undoes_written.1 d hd, by decide +kernel, (parse_undoes_written.2 _).2.1⟩

end Doctype

end MarkupCompletion
