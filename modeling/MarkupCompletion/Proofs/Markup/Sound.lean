import MarkupCompletion.Proofs.Markup.Characters
import MarkupCompletion.Proofs.Markup.Fields
import MarkupCompletion.Proofs.Text.Suffix
import Mathlib.Data.List.Nodup

/-
  What holds of every place that a reading can stand at.

  `Place.Sound` says for each place what its parts are: names are names, keys
  are keys and are not repeated, values hold nothing that would have ended them,
  and what is kept of a declaration or section is as little as decides how it
  goes on. One character keeps it, reader by reader (`step_sound`), and so does
  the end of the document, so it holds of every scan that can be reached
  (`Reachable.sound`).
-/

namespace MarkupCompletion

/-- Whether a text is the name of an element. -/
def IsElementName (name : Text) : Prop :=
  name.head?.any startsName = true ∧ ∀ c ∈ name, endsName c = false

instance (name : Text) : Decidable (IsElementName name) :=
  inferInstanceAs (Decidable (_ ∧ _))

/-- Whether a text is the name of an attribute. -/
def IsKey (key : Text) : Prop := key ≠ [] ∧ ∀ c ∈ key, endsName c = false

instance (key : Text) : Decidable (IsKey key) := inferInstanceAs (Decidable (_ ∧ _))

/-- Whether no attribute is there twice, and all have names, and values in which
no tag starts. -/
def Attributes.Sound (as : Attributes) : Prop :=
  (as.map Prod.fst).Nodup ∧ ∀ a ∈ as, IsKey a.1 ∧ '<' ∉ a.2

/-- Whether a value holds nothing that would have ended it. -/
def IsValue (value : Text) : Option Quote → Prop
  | some q => ∀ c ∈ value, c ≠ '<' ∧ c ≠ q.char
  | none => value ≠ [] ∧ ∀ c ∈ value, c ≠ '<' ∧ c ≠ '>' ∧ isBlank c = false

instance (value : Text) : (quote : Option Quote) → Decidable (IsValue value quote)
  | some q => inferInstanceAs (Decidable (∀ c ∈ value, c ≠ '<' ∧ c ≠ q.char))
  | none => inferInstanceAs (Decidable (_ ∧ _))

namespace TagPart

/-- What holds of the part of a tag that is being read. -/
def Sound : TagPart → Prop
  | .name | .gap | .slash => True
  | .key k | .afterKey k | .beforeValue k => IsKey k
  | .value k x q => IsKey k ∧ IsValue x q

end TagPart

/-- The quote that is open at the end of the body of a declaration. -/
def Doctype.openQuote? (body : Text) : Option Quote :=
  body.foldl
    (fun quote c =>
      match quote with
      | some q => if c = q.char then none else some q
      | none => Quote.ofChar? c)
    none

/-- Whether the body of a declaration goes on to its end: no angle stands in it
outside quotes. -/
def Doctype.IsOpenBody (body : Text) : Prop :=
  ∀ p c, p ++ [c] <+: body → Doctype.openQuote? p = none → c ≠ '<' ∧ c ≠ '>'

/-- Whether it is open what a declaration declares: it has not ended, opens no
section, and is no doctype. -/
def IsOpenKeyword (keyword : Text) : Prop :=
  (∀ c ∈ keyword, c ≠ '<' ∧ c ≠ '>') ∧ (∀ kind : Section, ¬ kind.opener <+: keyword) ∧
  ∀ p c, p ++ [c] <+: keyword → Text.sameAscii p "DOCTYPE" = true → isBlank c = false

namespace Place

def Sound : Place → Prop
  | .text | .angle => True
  | .opening name as part => IsElementName name ∧ as.Sound ∧ part.Sound
  | .closing name ended =>
    (∀ c ∈ name, c ≠ '<' ∧ c ≠ '>' ∧ isBlank c = false) ∧ (ended = true → name ≠ [])
  | .declaration keyword => IsOpenKeyword keyword
  | .doctype body quote => quote = Doctype.openQuote? body ∧ Doctype.IsOpenBody body
  | .skipped kind tail => Text.size tail ≤ Text.size kind.terminator

end Place

/-! ## Texts that grow by a character -/

theorem forall_mem_concat {P : Char → Prop} {t : Text} {c : Char} (h : ∀ d ∈ t, P d) (hc : P c) :
    ∀ d ∈ t ++ [c], P d := by
  intro d hd
  rcases List.mem_append.1 hd with hd | hd
  · exact h d hd
  · rw [List.mem_singleton.1 hd]
    exact hc

theorem IsElementName.concat {name : Text} {c : Char} (h : IsElementName name)
    (hc : endsName c = false) : IsElementName (name ++ [c]) := by
  obtain ⟨hstart, hends⟩ := h
  refine ⟨?_, forall_mem_concat hends hc⟩
  cases name with
  | nil => cases hstart
  | cons d t => exact hstart

theorem IsElementName.ne_nil {name : Text} (h : IsElementName name) : name ≠ [] := by
  rintro rfl
  cases h.1

theorem IsElementName.of_start {c : Char} (h : startsName c = true) : IsElementName [c] := by
  refine ⟨h, ?_⟩
  intro d hd
  rw [List.mem_singleton.1 hd]
  exact endsName_of_startsName h

theorem IsKey.concat {key : Text} {c : Char} (h : IsKey key) (hc : endsName c = false) :
    IsKey (key ++ [c]) :=
  ⟨List.append_ne_nil_of_right_ne_nil key (List.cons_ne_nil c []), forall_mem_concat h.2 hc⟩

theorem IsKey.singleton {c : Char} (hc : endsName c = false) : IsKey [c] := by
  refine ⟨List.cons_ne_nil c [], ?_⟩
  intro d hd
  rw [List.mem_singleton.1 hd]
  exact hc

theorem IsValue.not_mem {value : Text} {quote : Option Quote} (h : IsValue value quote) :
    '<' ∉ value := by
  intro hmem
  cases quote with
  | some q => exact (h '<' hmem).1 rfl
  | none => exact (h.2 '<' hmem).1 rfl

/-! ## Attributes -/

theorem Attributes.has_eq_false_iff {as : Attributes} {key : Text} :
    as.has key = false ↔ key ∉ as.map Prod.fst := by
  simp only [Attributes.has, List.any_eq_false, List.mem_map, beq_iff_eq, not_exists, not_and]

theorem Attributes.Sound.nil : Attributes.Sound [] :=
  ⟨List.nodup_nil, fun _ h => absurd h List.not_mem_nil⟩

theorem Attributes.nodup_record {as : Attributes} (h : (as.map Prod.fst).Nodup)
    (key value : Text) : ((as.record key value).map Prod.fst).Nodup := by
  simp only [Attributes.record]
  split
  · exact h
  · next hnew =>
    -- the key is not among those recorded
    have hfresh := Attributes.has_eq_false_iff.1 (Bool.not_eq_true _ ▸ hnew)
    rw [List.map_append, List.map_singleton, ← List.concat_eq_append]
    exact List.Nodup.concat hfresh h

theorem Attributes.Sound.record {as : Attributes} {key value : Text} (h : as.Sound)
    (hkey : IsKey key) (hvalue : '<' ∉ value) : (as.record key value).Sound := by
  refine ⟨Attributes.nodup_record h.1 key value, ?_⟩
  simp only [Attributes.record]
  split
  · exact h.2
  · intro a ha
    rcases List.mem_append.1 ha with ha | ha
    · exact h.2 a ha
    · rw [List.mem_singleton.1 ha]
      exact ⟨hkey, hvalue⟩

/-! ## Bodies of declarations -/

theorem Doctype.openQuote?_concat (body : Text) (c : Char) :
    Doctype.openQuote? (body ++ [c]) =
      match Doctype.openQuote? body with
      | some q => if c = q.char then none else some q
      | none => Quote.ofChar? c := by
  rw [Doctype.openQuote?, List.foldl_append]
  rfl

theorem Doctype.IsOpenBody.nil : Doctype.IsOpenBody [] := fun p c h =>
  absurd (List.prefix_nil.1 h) (List.append_ne_nil_of_right_ne_nil p (List.cons_ne_nil c []))

/-- A character inside quotes, or none of the angles, goes on with a body. -/
theorem Doctype.IsOpenBody.concat {body : Text} (h : Doctype.IsOpenBody body)
    (hc : Doctype.openQuote? body = none → c ≠ '<' ∧ c ≠ '>') :
    Doctype.IsOpenBody (body ++ [c]) := by
  intro p d hpd hp
  rcases List.prefix_concat_iff.1 hpd with heq | hpre
  · obtain ⟨rfl, hd⟩ := List.append_inj' heq rfl
    cases hd
    exact hc hp
  · exact h p d hpre hp

theorem Doctype.IsOpenBody.concat_inside {body : Text} {q : Quote} (h : Doctype.IsOpenBody body)
    (hq : Doctype.openQuote? body = some q) (c : Char) : Doctype.IsOpenBody (body ++ [c]) :=
  h.concat fun hnone => absurd (hq.symm.trans hnone) (Option.some_ne_none q)

theorem IsOpenKeyword.nil : IsOpenKeyword [] := by
  refine ⟨fun _ h => absurd h List.not_mem_nil, fun kind h => ?_, fun p c h => ?_⟩
  · have hopener : kind.opener ≠ [] := by cases kind <;> decide
    exact absurd (List.prefix_nil.1 h) hopener
  · exact absurd (List.prefix_nil.1 h)
      (List.append_ne_nil_of_right_ne_nil p (List.cons_ne_nil c []))

/-! ## Readers -/

namespace Scan

variable {v : VoidElements} {s : Scan} {c : Char}

theorem readAngle_sound (s : Scan) (c : Char) : (s.readAngle c).place.Sound := by
  simp only [readAngle]
  split
  · exact ⟨fun _ h => absurd h List.not_mem_nil, fun h => Bool.noConfusion h⟩
  · split
    · exact IsOpenKeyword.nil
    · split
      · next hstart => exact ⟨IsElementName.of_start hstart, Attributes.Sound.nil, trivial⟩
      · trivial

theorem readGap_sound {name : Text} {as : Attributes} (hname : IsElementName name)
    (has : as.Sound) : (s.readGap v name as c).place.Sound := by
  simp only [readGap]
  split
  · trivial
  · split
    · exact ⟨hname, has, trivial⟩
    · split
      · exact ⟨hname, has, trivial⟩
      · next hends => exact ⟨hname, has, IsKey.singleton (by simpa using hends)⟩

theorem readBeforeValue_sound {name k : Text} {as : Attributes}
    (hs : s.place = .opening name as (.beforeValue k)) (h : s.place.Sound) (hlt : c ≠ '<') :
    (s.readOpening v name as c (.beforeValue k)).place.Sound := by
  have hsame := h
  rw [hs] at h
  obtain ⟨hname, has, hk⟩ := h
  simp only [readOpening]
  split
  · trivial
  · next hgt =>
    split
    · exact hsame
    · next hblank =>
      split
      · next q hq => exact ⟨hname, has, hk, fun d hd => absurd hd List.not_mem_nil⟩
      · next hq =>
        refine ⟨hname, has, hk, List.cons_ne_nil c [], ?_⟩
        intro d hd
        rw [List.mem_singleton.1 hd]
        exact ⟨hlt, hgt, by simpa using hblank⟩

theorem readValue_sound {name k x : Text} {as : Attributes} {quote : Option Quote}
    (hs : s.place = .opening name as (.value k x quote)) (h : s.place.Sound) (hlt : c ≠ '<') :
    (s.readOpening v name as c (.value k x quote)).place.Sound := by
  rw [hs] at h
  obtain ⟨hname, has, hk, hx⟩ := h
  cases quote with
  | some q =>
    simp only [readOpening]
    split
    · exact ⟨hname, has.record hk (IsValue.not_mem hx), trivial⟩
    · next hq => exact ⟨hname, has, hk, forall_mem_concat hx ⟨hlt, hq⟩⟩
  | none =>
    simp only [readOpening]
    split
    · trivial
    · next hgt =>
      split
      · exact ⟨hname, has.record hk (IsValue.not_mem hx), trivial⟩
      · next hblank =>
        exact ⟨hname, has, hk, List.append_ne_nil_of_right_ne_nil x (List.cons_ne_nil c []),
          forall_mem_concat hx.2 ⟨hlt, hgt, by simpa using hblank⟩⟩

theorem readKey_sound {name k : Text} {as : Attributes} {part : TagPart}
    (hpart : part = .key k ∨ part = .afterKey k)
    (hs : s.place = .opening name as part) (h : s.place.Sound) (hlt : c ≠ '<') :
    (s.readOpening v name as c part).place.Sound := by
  have hsame := h
  rw [hs] at h
  rcases hpart with rfl | rfl
  · obtain ⟨hname, has, hk⟩ := h
    simp only [readOpening]
    split
    · exact ⟨hname, has, hk⟩
    · next heq =>
      split
      · trivial
      · next hgt =>
        split
        · exact ⟨hname, has.record hk List.not_mem_nil, trivial⟩
        · next hslash =>
          split
          · exact ⟨hname, has, hk⟩
          · next hblank =>
            split
            · exact hsame
            · next hquote =>
              -- no test was met, so the character ends no name
              have hends : endsName c = false := endsName_eq_false_iff.2
                ⟨by simpa using hblank, by simpa using hquote, hlt, hgt, hslash, heq⟩
              exact ⟨hname, has, hk.concat hends⟩
  · obtain ⟨hname, has, hk⟩ := h
    simp only [readOpening]
    split
    · exact ⟨hname, has, hk⟩
    · split
      · trivial
      · split
        · exact ⟨hname, has.record hk List.not_mem_nil, trivial⟩
        · split
          · exact hsame
          · next hends =>
            exact ⟨hname, has.record hk List.not_mem_nil, IsKey.singleton (by simpa using hends)⟩

theorem readOpening_sound {name : Text} {as : Attributes} {part : TagPart}
    (hs : s.place = .opening name as part) (h : s.place.Sound) (hlt : c ≠ '<') :
    (s.readOpening v name as c part).place.Sound := by
  cases part with
  | name =>
    rw [hs] at h
    obtain ⟨hname, has, -⟩ := h
    simp only [readOpening]
    split
    · trivial
    · split
      · exact ⟨hname, has, trivial⟩
      · split
        · exact ⟨hname, has, trivial⟩
        · next hends => exact ⟨hname.concat (by simpa using hends), has, trivial⟩
  | gap =>
    rw [hs] at h
    exact readGap_sound h.1 h.2.1
  | key k => exact readKey_sound (Or.inl rfl) hs h hlt
  | afterKey k => exact readKey_sound (Or.inr rfl) hs h hlt
  | beforeValue k => exact readBeforeValue_sound hs h hlt
  | value k x quote => exact readValue_sound hs h hlt
  | slash =>
    rw [hs] at h
    simp only [readOpening]
    split
    · trivial
    · exact readGap_sound h.1 h.2.1

theorem readClosing_sound {name : Text} {ended : Bool}
    (hs : s.place = .closing name ended) (h : s.place.Sound) (hlt : c ≠ '<') :
    (s.readClosing v name ended c).place.Sound := by
  have hsame := h
  rw [hs] at h
  obtain ⟨hname, hended⟩ := h
  simp only [readClosing]
  split
  · trivial
  · next hgt =>
    split
    · refine ⟨hname, fun hne => ?_⟩
      simpa using hne
    · next hblank =>
      split
      · exact hsame
      · exact ⟨forall_mem_concat hname ⟨hlt, hgt, by simpa using hblank⟩,
          fun h => Bool.noConfusion h⟩

theorem readDeclaration_sound {keyword : Text} (h : IsOpenKeyword keyword) (hlt : c ≠ '<') :
    (s.readDeclaration keyword c).place.Sound := by
  obtain ⟨hchars, hopener, hblank⟩ := h
  simp only [readDeclaration]
  split
  · split
    · trivial
    · trivial
  · next hgt =>
    split
    · exact ⟨rfl, Doctype.IsOpenBody.nil⟩
    · next hdoctype =>
      split
      · exact Nat.zero_le _
      · next hcomment =>
        split
        · exact Nat.zero_le _
        · next hcdata =>
          refine ⟨forall_mem_concat hchars ⟨hlt, hgt⟩, fun kind hkind => ?_, fun p d hpd hp => ?_⟩
          · rcases List.prefix_concat_iff.1 hkind with heq | hpre
            · cases kind
              · exact hcomment heq.symm
              · exact hcdata heq.symm
            · exact hopener kind hpre
          · -- a blank after the keyword of a doctype would have been taken for its end
            rcases List.prefix_concat_iff.1 hpd with heq | hpre
            · obtain ⟨rfl, hd⟩ := List.append_inj' heq rfl
              cases hd
              rw [hp, Bool.and_true] at hdoctype
              exact Bool.not_eq_true _ ▸ hdoctype
            · exact hblank p d hpre hp

theorem readDoctype_sound {body : Text} {quote : Option Quote}
    (hquote : quote = Doctype.openQuote? body) (h : Doctype.IsOpenBody body)
    (hlt : quote = none → c ≠ '<') : (s.readDoctype body quote c).place.Sound := by
  simp only [readDoctype]
  split
  · refine ⟨?_, h.concat_inside hquote.symm c⟩
    rw [Doctype.openQuote?_concat, ← hquote]
  · split
    · trivial
    · next hgt =>
      refine ⟨?_, h.concat fun _ => ⟨hlt rfl, hgt⟩⟩
      rw [Doctype.openQuote?_concat, ← hquote]

theorem readSection_sound (s : Scan) (kind : Section) (tail : Text) (c : Char) :
    (s.readSection kind tail c).place.Sound := by
  simp only [readSection]
  split
  · trivial
  · exact Text.size_lastBytes_le _ _

/-! ## Runs -/

theorem react_sound (v : VoidElements) {s : Scan} (h : s.place.Sound) (c : Char) :
    (s.react v c).place.Sound := by
  simp only [react]
  split
  · trivial
  · next hangle =>
    -- where `<` starts a tag, another character is read
    have hlt (hshield : s.place.shieldsAngle = false) : c ≠ '<' := by
      rintro rfl
      simp [hshield] at hangle
    split
    · exact h
    · exact readAngle_sound s c
    · next name as part hs => exact readOpening_sound hs h (hlt (by rw [hs]; rfl))
    · next name ended hs => exact readClosing_sound hs h (hlt (by rw [hs]; rfl))
    · next keyword hs =>
      rw [hs] at h
      exact readDeclaration_sound h (hlt (by rw [hs]; rfl))
    · next body quote hs =>
      rw [hs] at h
      exact readDoctype_sound h.1 h.2 fun hnone => hlt (by rw [hs, hnone]; rfl)
    · next kind tail hs => exact readSection_sound s kind tail c

theorem step_sound (v : VoidElements) {s : Scan} (h : s.place.Sound) (c : Char) :
    (s.step v c).place.Sound := react_sound v h c

/-- The scans that can be reached by reading characters and ends of documents. -/
inductive Reachable (v : VoidElements) : Scan → Prop where
  | new : Reachable v {}
  | step {s : Scan} (c : Char) : Reachable v s → Reachable v (s.step v c)
  | finish {s : Scan} : Reachable v s → Reachable v s.finish

theorem Reachable.feed {v : VoidElements} {s : Scan} (h : Reachable v s) (t : Text) :
    Reachable v (s.feed v t) := by
  induction t generalizing s with
  | nil => exact h
  | cons c t ih => exact ih (h.step c)

theorem Reachable.sound {v : VoidElements} {s : Scan} (h : Reachable v s) : s.place.Sound := by
  induction h with
  | new => trivial
  | step c _ ih => exact step_sound v ih c
  | finish _ _ => trivial

end Scan

end MarkupCompletion
