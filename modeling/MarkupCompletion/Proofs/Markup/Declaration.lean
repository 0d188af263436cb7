import MarkupCompletion.Proofs.Markup.Doctype
import MarkupCompletion.Proofs.Markup.Leads
import MarkupCompletion.Proofs.Markup.Outcome
import MarkupCompletion.Proofs.Markup.Sound

/-
  Reading a doctype declaration.

  The keyword is read up to a blank (`leads_keyword`) and the body up to a `>` that
  stands outside quotes (`leads_body`). Nothing but the place is touched until then, so
  a declaration takes effect at once and as a whole (`feed_declaration`), and one that a
  `<` breaks off takes none (`doctype_captured_whole`). The declaration that is written
  for a doctype declares that doctype (`feed_written`).
-/

namespace MarkupCompletion

namespace Doctype

/-- Whether a text can be the body of a declaration: no angle stands in it outside
quotes, and all quotes are closed. -/
structure IsBody (body : Text) : Prop where
  isOpen : IsOpenBody body
  closed : openQuote? body = none

namespace IsBody

variable {body t x : Text} {c : Char}

theorem nil : IsBody [] := ⟨IsOpenBody.nil, rfl⟩

theorem concat (h : IsBody body) (hlt : c ≠ '<') (hgt : c ≠ '>') (hquote : isQuote c = false) :
    IsBody (body ++ [c]) := by
  refine ⟨h.isOpen.concat fun _ => ⟨hlt, hgt⟩, ?_⟩
  rw [openQuote?_concat, h.closed]
  exact Quote.ofChar?_eq_none_iff.2 hquote

theorem append (h : IsBody body) (ht : ∀ c ∈ t, c ≠ '<' ∧ c ≠ '>' ∧ isQuote c = false) :
    IsBody (body ++ t) := by
  induction t using List.reverseRecOn with
  | nil => rwa [List.append_nil]
  | append_singleton t c ih =>
    obtain ⟨hlt, hgt, hquote⟩ := ht c List.mem_concat_self
    rw [← List.append_assoc]
    exact (ih fun d hd => ht d (List.mem_append_left [c] hd)).concat hlt hgt hquote

theorem open_string (h : IsBody body) (q : Quote) (hx : q.char ∉ x) :
    IsOpenBody (body ++ q.char :: x) ∧ openQuote? (body ++ q.char :: x) = some q := by
  induction x using List.reverseRecOn with
  | nil =>
    refine ⟨h.isOpen.concat fun _ => ?_, ?_⟩
    · cases q <;> decide
    · rw [openQuote?_concat, h.closed]
      exact Quote.ofChar?_char q
  | append_singleton x c ih =>
    obtain ⟨hopen, hquote⟩ := ih fun hmem => hx (List.mem_append_left [c] hmem)
    have hc : c ≠ q.char := by
      rintro rfl
      exact hx List.mem_concat_self
    rw [← List.cons_append, ← List.append_assoc]
    refine ⟨hopen.concat_inside hquote c, ?_⟩
    rw [openQuote?_concat, hquote]
    exact if_neg hc

theorem append_string (h : IsBody body) (q : Quote) (hx : q.char ∉ x) :
    IsBody (body ++ q.char :: x ++ [q.char]) := by
  obtain ⟨hopen, hquote⟩ := h.open_string q hx
  refine ⟨hopen.concat_inside hquote q.char, ?_⟩
  rw [openQuote?_concat, hquote]
  exact if_pos rfl

theorem append_quotedId (h : IsBody body) {id : Text} (hid : '"' ∉ id) :
    IsBody (body ++ quotedId id) := by
  have hall := (h.append (t := " ") (by decide)).append_string .double hid
  rw [List.append_assoc, List.append_assoc] at hall
  exact hall

end IsBody

theorem WellFormed.isBody {d : Doctype} (h : d.WellFormed)
    (hroot : ∀ c ∈ d.root, c ≠ '<' ∧ c ≠ '>') : IsBody d.body := by
  have hbody : IsBody d.root := by
    have hall := IsBody.nil.append (t := d.root) fun c hc =>
      ⟨(hroot c hc).1, (hroot c hc).2, (isBare_iff.1 (h.root_bare c hc)).2⟩
    exact hall
  obtain ⟨root, publicId, systemId⟩ := d
  have hpublic : ∀ p ∈ publicId, '"' ∉ p := h.publicId
  have hsystem : ∀ s ∈ systemId, '"' ∉ s := h.systemId
  simp only [body, writtenIds]
  cases publicId with
  | some p =>
    have hp := (hbody.append (t := " PUBLIC") (by decide)).append_quotedId (hpublic p rfl)
    cases systemId with
    | some s =>
      have hs := hp.append_quotedId (hsystem s rfl)
      simpa only [List.append_assoc] using hs
    | none => simpa only [List.append_assoc] using hp
  | none =>
    cases systemId with
    | some s =>
      have hs := (hbody.append (t := " SYSTEM") (by decide)).append_quotedId (hsystem s rfl)
      simpa only [List.append_assoc] using hs
    | none => simpa only [List.append_nil] using hbody

end Doctype

/-! ## Keywords -/

theorem IsOpenKeyword.of_prefix {k k' : Text} (h : IsOpenKeyword k') (hk : k <+: k') :
    IsOpenKeyword k :=
  ⟨fun c hc => h.1 c (hk.subset hc), fun kind hkind => h.2.1 kind (hkind.trans hk),
    fun p c hp => h.2.2 p c (hp.trans hk)⟩

/-- The keyword of a doctype, in any letter case, is read to its end. -/
theorem isOpenKeyword_of_doctype {k : Text} (h : Text.sameAscii k "DOCTYPE" = true) :
    IsOpenKeyword k := by
  have hends : ∀ c ∈ k, endsName c = false := endsName_of_sameAscii h (by decide)
  refine ⟨fun c hc => ?_, fun kind hkind => ?_, fun p c hp _ => ?_⟩
  · obtain ⟨-, -, hlt, hgt, -⟩ := endsName_eq_false_iff.1 (hends c hc)
    exact ⟨hlt, hgt⟩
  · have hlower : Text.lowerAscii kind.opener <+: Text.lowerAscii "DOCTYPE" := by
      rw [← Text.sameAscii_iff.1 h]
      exact hkind.map Char.toLower
    revert hlower
    cases kind <;> decide
  · have hc : c ∈ k := hp.subset List.mem_concat_self
    exact (endsName_eq_false_iff.1 (hends c hc)).1

/-! ## Declarations -/

variable {v : VoidElements}

theorem leads_keyword {k : Text} (h : IsOpenKeyword k) :
    Leads v (.declaration []) k (.declaration k) := by
  induction k using List.reverseRecOn with
  | nil => exact Leads.nil
  | append_singleton k c ih =>
    obtain ⟨hchars, hopener, hblank⟩ := h
    obtain ⟨hlt, hgt⟩ := hchars c List.mem_concat_self
    have hgoes : (isBlank c && Text.sameAscii k "DOCTYPE") = false := by
      cases hk : Text.sameAscii k "DOCTYPE" with
      | true => rw [hblank k c List.prefix_rfl hk, Bool.false_and]
      | false => exact Bool.and_false _
    have hsection (kind : Section) : k ++ [c] ≠ kind.opener := by
      intro heq
      exact hopener kind (heq ▸ List.prefix_rfl)
    have hk := IsOpenKeyword.of_prefix ⟨hchars, hopener, hblank⟩ (List.prefix_append k [c])
    refine (ih hk).append (Leads.step fun s hs => ?_)
    rw [Scan.react_declaration hs hlt]
    simp only [Scan.readDeclaration, hgt, hgoes, hsection .comment, hsection .cdata, if_false,
      Bool.false_eq_true]

theorem leads_body {body : Text} (h : Doctype.IsOpenBody body) :
    Leads v (.doctype [] none) body (.doctype body (Doctype.openQuote? body)) := by
  induction body using List.reverseRecOn with
  | nil => exact Leads.nil
  | append_singleton body c ih =>
    have hc := h body c List.prefix_rfl
    have hbody : Doctype.IsOpenBody body := fun p d hp =>
      h p d (hp.trans (List.prefix_append body [c]))
    refine (ih hbody).append (Leads.step fun s hs => ?_)
    rw [Scan.react_doctype hs fun hnone => (hc hnone).1, Doctype.openQuote?_concat]
    cases hquote : Doctype.openQuote? body with
    | some q => rfl
    | none => simp only [Scan.readDoctype, (hc hquote).2, if_false]

theorem leads_declaration {k body : Text} {w : Char} (hk : Text.sameAscii k "DOCTYPE" = true)
    (hw : isBlank w = true) (hbody : Doctype.IsOpenBody body) :
    Leads v .text ('<' :: '!' :: k ++ w :: body) (.doctype body (Doctype.openQuote? body)) := by
  have hbang : Leads v .angle ['!'] (.declaration []) :=
    Leads.step fun s hs => Scan.react_angle hs (by decide)
  have hblank : Leads v (.declaration k) [w] (.doctype [] none) := by
    refine Leads.step fun s hs => ?_
    have hgt : w ≠ '>' := ne_of_isBlank hw (by decide)
    rw [Scan.react_declaration hs (ne_of_isBlank hw (by decide))]
    simp only [Scan.readDeclaration, hgt, hk, hw, if_false, Bool.and_true, if_true]
  exact ((leads_lt rfl).cons (hbang.cons (leads_keyword (isOpenKeyword_of_doctype hk)))).append
    (hblank.cons (leads_body hbody))

theorem feed_declaration {s : Scan} (hs : s.place = .text) {k body : Text} {w : Char}
    (hk : Text.sameAscii k "DOCTYPE" = true) (hw : isBlank w = true) (hbody : Doctype.IsBody body) :
    let t := '<' :: '!' :: k ++ w :: body ++ ['>']
    s.feed v t = { s.declare body with consumed := s.consumed + Text.size t } := by
  intro t
  have hread := leads_declaration (v := v) hk hw hbody.isOpen s hs
  rw [hbody.closed] at hread
  have hend (s' : Scan) (hs' : s'.place = .doctype body none) :
      s'.feed v ['>'] = { s'.declare body with consumed := s'.consumed + Text.size ['>'] } := by
    rw [Scan.feed_cons, Scan.feed_nil, Scan.step, Scan.react_doctype hs' fun _ => by decide]
    rfl
  have hsize : Text.size t = Text.size ('<' :: '!' :: k ++ w :: body) + Text.size ['>'] :=
    Text.size_append _ _
  rw [Scan.feed_append, hread, hend _ rfl, hsize, ← Nat.add_assoc]
  rfl

theorem Leads.declared {p q : Place} {t : Text} (h : Leads v p t q) {s : Scan} (hs : s.place = p) :
    s.declared v t = 0 := by
  have hcount : s.generation = s.generation + s.declared v t := by
    rw [← Scan.generation_feed, h s hs]
  omega

/-- **A doctype is captured as a whole or not at all.** From character data, let a
declaration be written with its keyword in any letter case, a blank, and a body in which
all quotes are closed and angles stand only inside quotes. With the `>` after it one
doctype is completed, the one the body describes, and all else is as before but for the
bytes counted. Until then none is. Where a `<` follows in place of the `>`, a tag starts
and nothing is left of the declaration. -/
theorem doctype_captured_whole (v : VoidElements) {s : Scan} (hs : s.place = .text)
    {k body : Text} {w : Char} (hk : Text.sameAscii k "DOCTYPE" = true) (hw : isBlank w = true)
    (hbody : Doctype.IsBody body) :
    let opened := '<' :: '!' :: k ++ w :: body
    let closed := opened ++ ['>']
    let broken := opened ++ ['<']
    (s.declared v closed = 1 ∧
      s.feed v closed =
        { s with
          doctype := some (Doctype.parse body)
          generation := s.generation + 1
          consumed := s.consumed + Text.size closed }) ∧
    (∀ p, p <+: closed → p ≠ closed →
      s.declared v p = 0 ∧ (s.feed v p).doctype = s.doctype ∧
        (s.feed v p).generation = s.generation) ∧
    s.declared v broken = 0 ∧
    s.feed v broken = { s with place := .angle, consumed := s.consumed + Text.size broken } := by
  intro opened closed broken
  have hopened := leads_declaration (v := v) hk hw hbody.isOpen
  rw [hbody.closed] at hopened
  have hclosed := feed_declaration (v := v) hs hk hw hbody
  have hbroken : Leads v .text broken .angle := hopened.append (leads_lt rfl)
  refine ⟨⟨?_, ?_⟩, ?_, hbroken.declared hs, hbroken s hs⟩
  · have hcount := Scan.generation_feed v s closed
    rw [hclosed] at hcount
    exact (Nat.add_left_cancel hcount).symm
  · rw [hclosed, Scan.declare, ← hs]
  · intro p hp hne
    -- a start that is not the whole declaration ends before its `>`
    have hstart : p <+: opened := (List.prefix_concat_iff.1 hp).resolve_left hne
    have hnone : s.declared v p = 0 :=
      Scan.declared_eq_zero_of_prefix (hopened.declared hs) hstart
    refine ⟨hnone, Scan.doctype_feed hnone, ?_⟩
    rw [Scan.generation_feed, hnone, Nat.add_zero]

/-- Both angles stand in both kinds of quotes, next to the quote of the other kind. -/
theorem doctype_captured_whole_with_angles_in_quotes :
    let s : Scan :=
      { enclosing := ["p", "body"], doctype := some { root := "old" }, generation := 3 }
    let body : Text := "a PUBLIC \"<b>'\"'\"</c>' "
    let opened : Text := '<' :: '!' :: "docType" ++ '\u2003' :: body
    s.place = .text ∧ Text.sameAscii "docType" "DOCTYPE" = true ∧ isBlank '\u2003' = true ∧
    Doctype.IsBody body ∧
    s.feed .html (opened ++ ['>']) =
      { s with
        doctype := some { root := "a", publicId := some "<b>'", systemId := some "\"</c>" }
        generation := 4
        consumed := 36 } ∧
    (s.feed .html opened).doctype = some { root := "old" } ∧
    s.feed .html (opened ++ ['<']) = { s with place := .angle, consumed := 36 } := by
  intro s body opened
  have hk : Text.sameAscii "docType" "DOCTYPE" = true := by decide
  have hw : isBlank '\u2003' = true := by decide
  have hbody : Doctype.IsBody body := by
    have hword := Doctype.IsBody.nil.append (t := "a PUBLIC ") (by decide +kernel)
    have hpublic := hword.append_string .double (x := "<b>'") (by decide)
    have hsystem := hpublic.append_string .single (x := "\"</c>") (by decide)
    exact hsystem.append (t := " ") (by decide +kernel)
  obtain ⟨⟨-, hclosed⟩, hstarts, -, hbroken⟩ :=
    doctype_captured_whole .html (s := s) rfl hk hw hbody
  have hparse : Doctype.parse body =
      { root := "a", publicId := some "<b>'", systemId := some "\"</c>" } := by decide +kernel
  have hsize (c : Char) (hc : c.utf8Size = 1) : Text.size (opened ++ [c]) = 36 := by
    rw [Text.size_append, Text.size_cons, hc]
    decide +kernel
  rw [hparse, hsize '>' rfl] at hclosed
  rw [hsize '<' rfl] at hbroken
  have hopened := hstarts opened (List.prefix_append opened ['>'])
    (List.self_eq_append_right.not.2 (List.cons_ne_nil '>' []))
  exact ⟨rfl, hk, hw, hbody, hclosed, hopened.2.1, hbroken⟩

theorem feed_written {s : Scan} (hs : s.place = .text) {d : Doctype} (h : d.WellFormed)
    (hroot : ∀ c ∈ d.root, c ≠ '<' ∧ c ≠ '>') :
    s.feed v d.written =
      { s with
        doctype := some d
        generation := s.generation + 1
        consumed := s.consumed + Text.size d.written } := by
  have hread := feed_declaration (v := v) hs (k := "DOCTYPE") (w := ' ') (by decide) (by decide)
    (h.isBody hroot)
  obtain ⟨place, enclosing, doctype, generation, consumed⟩ := s
  cases hs
  simp only [Scan.declare, Doctype.parse_body h] at hread
  exact hread

end MarkupCompletion
