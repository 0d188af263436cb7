import MarkupCompletion.Proofs.Markup.Leads
import MarkupCompletion.Proofs.Markup.Sound

/-
  Opening tags as they are written, and where reading them leads.

  An attribute may be written bare, with a value in quotes, or with a value
  without quotes, and blanks may stand around the `=`. However the attributes of
  a tag are written, the tag is read up to its end, at a part where only the last
  attribute may still be pending, and with it the attributes are those written,
  the first of each name (`StartTag.leads`).
-/

namespace MarkupCompletion

/-- Whether a text is nothing but blanks. -/
def AreBlank (t : Text) : Prop := ∀ c ∈ t, isBlank c = true

instance (t : Text) : Decidable (AreBlank t) :=
  inferInstanceAs (Decidable (∀ c ∈ t, isBlank c = true))

/-- What is written after the name of an attribute. -/
inductive ValueForm where
  | bare
  /-- a value in quotes, with blanks before and after the `=` -/
  | quoted (before after : Text) (quote : Quote) (value : Text)
  /-- a value without quotes, with blanks before and after the `=` -/
  | unquoted (before after value : Text)
  deriving DecidableEq, Repr

namespace ValueForm

def written : ValueForm → Text
  | .bare => []
  | .quoted before after q x => before ++ '=' :: after ++ (q.char :: x ++ [q.char])
  | .unquoted before after x => before ++ '=' :: after ++ x

/-- The value, empty if none is written. -/
def value : ValueForm → Text
  | .bare => []
  | .quoted _ _ _ x | .unquoted _ _ x => x

def IsUnquoted : ValueForm → Prop
  | .unquoted .. => True
  | _ => False

instance : (form : ValueForm) → Decidable form.IsUnquoted
  | .unquoted .. => inferInstanceAs (Decidable True)
  | .bare | .quoted .. => inferInstanceAs (Decidable False)

/-- Whether the value is read as far as it is written. -/
def WellFormed : ValueForm → Prop
  | .bare => True
  | .quoted before after q x => AreBlank before ∧ AreBlank after ∧ IsValue x (some q)
  | .unquoted before after x =>
    AreBlank before ∧ AreBlank after ∧ IsValue x none ∧ x.head?.any isQuote = false

instance : (form : ValueForm) → Decidable form.WellFormed
  | .bare => inferInstanceAs (Decidable True)
  | .quoted .. | .unquoted .. => inferInstanceAs (Decidable (_ ∧ _))

end ValueForm

/-- An attribute as it is written, with the blanks before it. -/
structure WrittenAttribute where
  lead : Text
  key : Text
  form : ValueForm
  deriving DecidableEq, Repr

namespace WrittenAttribute

def written (a : WrittenAttribute) : Text := a.lead ++ (a.key ++ a.form.written)

structure WellFormed (a : WrittenAttribute) : Prop where
  lead_ne_nil : a.lead ≠ []
  lead_blank : AreBlank a.lead
  key : IsKey a.key
  form : a.form.WellFormed

instance (a : WrittenAttribute) : Decidable a.WellFormed :=
  decidable_of_iff (a.lead ≠ [] ∧ AreBlank a.lead ∧ IsKey a.key ∧ a.form.WellFormed)
    ⟨fun ⟨hne, hlead, hkey, hform⟩ => ⟨hne, hlead, hkey, hform⟩,
      fun h => ⟨h.lead_ne_nil, h.lead_blank, h.key, h.form⟩⟩

end WrittenAttribute

/-- The attributes that are written, the first of each name. -/
def Attributes.ofWritten (as : List WrittenAttribute) : Attributes :=
  as.foldl (fun known a => known.record a.key a.form.value) []

/-- An opening tag as it is written, up to the `>` or `/>` that ends it. -/
structure StartTag where
  name : Text
  attributes : List WrittenAttribute
  /-- blanks before the end -/
  trail : Text
  deriving DecidableEq, Repr

namespace StartTag

def written (t : StartTag) : Text :=
  '<' :: t.name ++ t.attributes.flatMap WrittenAttribute.written ++ t.trail

structure WellFormed (t : StartTag) : Prop where
  name : IsElementName t.name
  attributes : ∀ a ∈ t.attributes, a.WellFormed
  trail : AreBlank t.trail

instance (t : StartTag) : Decidable t.WellFormed :=
  decidable_of_iff
    (IsElementName t.name ∧ (∀ a ∈ t.attributes, a.WellFormed) ∧ AreBlank t.trail)
    ⟨fun ⟨hname, hattributes, htrail⟩ => ⟨hname, hattributes, htrail⟩,
      fun h => ⟨h.name, h.attributes, h.trail⟩⟩

/-- Whether a `/` can follow: it would be taken for a part of a value that is
written without quotes. -/
def AdmitsSlash (t : StartTag) : Prop :=
  t.trail = [] → ∀ a ∈ t.attributes.getLast?, ¬ a.form.IsUnquoted

instance (t : StartTag) : Decidable t.AdmitsSlash := inferInstanceAs (Decidable (_ → _))

end StartTag

/-! ## Parts at which a tag may go on or end -/

namespace TagPart

/-- Whether another attribute may follow, or the tag end. -/
def IsResting : TagPart → Prop
  | .name | .gap | .key _ | .afterKey _ | .value _ _ none => True
  | _ => False

def IsSpaced : TagPart → Prop
  | .gap | .afterKey _ => True
  | _ => False

/-- Whether a value without quotes is being read. -/
def IsBareValue : TagPart → Prop
  | .value _ _ none => True
  | _ => False

/-- The attributes of a tag together with the one that is pending. -/
def settle (as : Attributes) : TagPart → Attributes
  | .key k | .afterKey k | .beforeValue k => as.record k []
  | .value k x _ => as.record k x
  | .name | .gap | .slash => as

theorem IsSpaced.isResting {part : TagPart} (h : part.IsSpaced) : part.IsResting := by
  cases part with
  | gap | afterKey k => trivial
  | _ => exact absurd h id

theorem IsResting.ne_slash {part : TagPart} (h : part.IsResting) : part ≠ .slash := by
  rintro rfl
  exact h

theorem IsResting.openQuote?_eq_none {part : TagPart} (h : part.IsResting) :
    part.openQuote? = none := by
  cases part with
  | value k x quote =>
    cases quote with
    | none => rfl
    | some q => exact absurd h id
  | _ => rfl

theorem IsSpaced.not_isBareValue {part : TagPart} (h : part.IsSpaced) : ¬ part.IsBareValue := by
  cases part with
  | gap | afterKey k => exact id
  | _ => exact absurd h id

end TagPart

/-! ## Blanks and signs in a tag -/

section Tag

variable {v : VoidElements} {name k : Text} {as : Attributes} {part : TagPart} {c : Char}

theorem ne_signs_of_isBlank (h : isBlank c = true) : c ≠ '<' ∧ c ≠ '>' ∧ c ≠ '/' ∧ c ≠ '=' :=
  ⟨ne_of_isBlank h rfl, ne_of_isBlank h rfl, ne_of_isBlank h rfl, ne_of_isBlank h rfl⟩

theorem leads_opening {q : Place} (hlt : c ≠ '<')
    (h : ∀ s : Scan, s.readOpening v name as c part = s.moveTo q) :
    Leads v (.opening name as part) [c] q := by
  apply Leads.step
  intro s hs
  rw [Scan.react_opening hs hlt]
  exact h s

theorem leads_blank (hpart : part.IsResting) (hc : isBlank c = true) :
    ∃ as' part', Leads v (.opening name as part) [c] (.opening name as' part') ∧
      part'.IsSpaced ∧ part'.settle as' = part.settle as := by
  obtain ⟨hlt, hgt, hslash, heq⟩ := ne_signs_of_isBlank hc
  have hends : endsName c = true := endsName_of_isBlank hc
  -- a value without quotes is recorded at once, a key only when no `=` follows
  cases part with
  | name | gap =>
    refine ⟨as, .gap, leads_opening hlt fun s => ?_, trivial, rfl⟩
    simp only [Scan.readOpening, Scan.readGap, hgt, hslash, hends, if_false, if_true]
  | key k =>
    refine ⟨as, .afterKey k, leads_opening hlt fun s => ?_, trivial, rfl⟩
    simp only [Scan.readOpening, heq, hgt, hslash, hc, if_false, if_true]
  | afterKey k =>
    refine ⟨as, .afterKey k, Leads.stay fun s hs => ?_, trivial, rfl⟩
    rw [Scan.react_opening hs hlt]
    simp only [Scan.readOpening, heq, hgt, hslash, hends, if_false, if_true]
  | value k x quote =>
    cases quote with
    | none =>
      refine ⟨as.record k x, .gap, leads_opening hlt fun s => ?_, trivial, rfl⟩
      simp only [Scan.readOpening, hgt, hc, if_false, if_true]
    | some q => exact absurd hpart id
  | beforeValue k | slash => exact absurd hpart id

theorem leads_more_blanks {t : Text} (hpart : part.IsSpaced) (ht : AreBlank t) :
    Leads v (.opening name as part) t (.opening name as part) := by
  apply Leads.all
  intro c hc
  apply Leads.stay
  intro s hs
  obtain ⟨hlt, hgt, hslash, heq⟩ := ne_signs_of_isBlank (ht c hc)
  have hends : endsName c = true := endsName_of_isBlank (ht c hc)
  rw [Scan.react_opening hs hlt]
  cases part with
  | gap =>
    simp only [Scan.readOpening, Scan.readGap, hgt, hslash, hends, if_false, if_true]
    rw [← hs]
    rfl
  | afterKey k => simp only [Scan.readOpening, heq, hgt, hslash, hends, if_false, if_true]
  | _ => exact absurd hpart id

theorem leads_blanks {t : Text} (hpart : part.IsResting) (ht : AreBlank t) (hne : t ≠ []) :
    ∃ as' part', Leads v (.opening name as part) t (.opening name as' part') ∧
      part'.IsSpaced ∧ part'.settle as' = part.settle as := by
  cases t with
  | nil => exact absurd rfl hne
  | cons c t =>
    obtain ⟨as', part', hlead, hspaced, hsettle⟩ := leads_blank hpart (ht c List.mem_cons_self)
    refine ⟨as', part', hlead.cons ?_, hspaced, hsettle⟩
    exact leads_more_blanks hspaced fun d hd => ht d (List.mem_cons_of_mem c hd)

theorem leads_slash (hpart : part.IsResting) (hvalue : ¬ part.IsBareValue) :
    Leads v (.opening name as part) ['/'] (.opening name (part.settle as) .slash) := by
  apply leads_opening (by decide)
  intro s
  cases part with
  | name | gap | key k | afterKey k => rfl
  | value k x quote =>
    cases quote with
    | none => exact absurd trivial hvalue
    | some q => exact absurd hpart id
  | beforeValue k | slash => exact absurd hpart id

/-! ## Names, keys and values -/

theorem leads_name (h : IsElementName name) :
    Leads v .angle name (.opening name [] .name) := by
  obtain ⟨hhead, hends⟩ := h
  cases name with
  | nil => cases hhead
  | cons c t =>
    refine Leads.begin (f := fun x => .opening x [] .name) ?_ fun x d hd => ?_
    · have hstart : startsName c = true := hhead
      have hc := endsName_of_startsName hstart
      have hslash : c ≠ '/' := ne_of_endsName_eq_false hc (by decide)
      have hbang : c ≠ '!' := by
        rintro rfl
        exact absurd hstart (by decide)
      apply Leads.step
      intro s hs
      rw [Scan.react_angle hs (ne_of_endsName_eq_false hc (by decide))]
      simp only [Scan.readAngle, hslash, hbang, hstart, if_false, if_true]
    · have hd' := hends d (List.mem_cons_of_mem c hd)
      have hgt : d ≠ '>' := ne_of_endsName_eq_false hd' (by decide)
      have hslash : d ≠ '/' := ne_of_endsName_eq_false hd' (by decide)
      apply leads_opening (ne_of_endsName_eq_false hd' (by decide))
      intro s
      simp only [Scan.readOpening, hgt, hslash, hd', Bool.false_eq_true, if_false]

/-- After a blank the name of another attribute begins, and the one before it is
settled. -/
theorem leads_key {key : Text} (hpart : part.IsSpaced) (h : IsKey key) :
    Leads v (.opening name as part) key (.opening name (part.settle as) (.key key)) := by
  obtain ⟨hne, hends⟩ := h
  cases key with
  | nil => exact absurd rfl hne
  | cons c t =>
    refine Leads.begin (f := fun x => .opening name (part.settle as) (.key x)) ?_ fun x d hd => ?_
    · have hc := hends c List.mem_cons_self
      have hgt : c ≠ '>' := ne_of_endsName_eq_false hc (by decide)
      have hslash : c ≠ '/' := ne_of_endsName_eq_false hc (by decide)
      have heq : c ≠ '=' := ne_of_endsName_eq_false hc (by decide)
      apply leads_opening (ne_of_endsName_eq_false hc (by decide))
      intro s
      cases part with
      | gap =>
        simp only [Scan.readOpening, Scan.readGap, hgt, hslash, hc, Bool.false_eq_true, if_false,
          TagPart.settle]
      | afterKey k =>
        simp only [Scan.readOpening, heq, hgt, hslash, hc, Bool.false_eq_true, if_false,
          TagPart.settle]
      | _ => exact absurd hpart id
    · obtain ⟨hblank, hquote, hlt, hgt, hslash, heq⟩ :=
        endsName_eq_false_iff.1 (hends d (List.mem_cons_of_mem c hd))
      apply leads_opening hlt
      intro s
      simp only [Scan.readOpening, heq, hgt, hslash, hblank, hquote, Bool.false_eq_true, if_false]

theorem leads_equals {before after : Text} (hbefore : AreBlank before) (hafter : AreBlank after) :
    Leads v (.opening name as (.key k)) (before ++ '=' :: after)
      (.opening name as (.beforeValue k)) := by
  have hblanks : Leads v (.opening name as (.beforeValue k)) after
      (.opening name as (.beforeValue k)) := by
    apply Leads.all
    intro c hc
    apply Leads.stay
    intro s hs
    obtain ⟨hlt, hgt, -, -⟩ := ne_signs_of_isBlank (hafter c hc)
    rw [Scan.react_opening hs hlt]
    simp only [Scan.readOpening, hgt, hafter c hc, if_false, if_true]
  have hsign (part : TagPart) (hpart : part = .key k ∨ part = .afterKey k) :
      Leads v (.opening name as part) ['='] (.opening name as (.beforeValue k)) := by
    apply leads_opening (by decide)
    intro s
    rcases hpart with rfl | rfl
    · rfl
    · rfl
  -- blanks before the sign end the key, and the sign means the same then
  cases before with
  | nil => exact (hsign _ (Or.inl rfl)).cons hblanks
  | cons c t =>
    have hfirst : Leads v (.opening name as (.key k)) [c] (.opening name as (.afterKey k)) := by
      have hc := hbefore c List.mem_cons_self
      obtain ⟨hlt, hgt, hslash, heq⟩ := ne_signs_of_isBlank hc
      apply leads_opening hlt
      intro s
      simp only [Scan.readOpening, heq, hgt, hslash, hc, if_false, if_true]
    have hmore : Leads v (.opening name as (.afterKey k)) t (.opening name as (.afterKey k)) :=
      leads_more_blanks trivial fun d hd => hbefore d (List.mem_cons_of_mem c hd)
    exact (hfirst.cons hmore).append ((hsign _ (Or.inr rfl)).cons hblanks)

theorem leads_quoted {q : Quote} {x : Text} (h : IsValue x (some q)) :
    Leads v (.opening name as (.beforeValue k)) (q.char :: x)
      (.opening name as (.value k x (some q))) := by
  have hopen : Leads v (.opening name as (.beforeValue k)) [q.char]
      (.opening name as (.value k [] (some q))) := by
    have hlt : q.char ≠ '<' := by cases q <;> decide
    apply leads_opening hlt
    intro s
    cases q with
    | double => rfl
    | single => rfl
  have hvalue : Leads v (.opening name as (.value k [] (some q))) x
      (.opening name as (.value k ([] ++ x) (some q))) := by
    refine Leads.grow (f := fun x => .opening name as (.value k x (some q)))
      (fun y c hc => ?_) []
    obtain ⟨hlt, hq⟩ := h c hc
    apply leads_opening hlt
    intro s
    simp only [Scan.readOpening, hq, if_false]
  exact hopen.cons hvalue

theorem leads_quote {q : Quote} {x : Text} :
    Leads v (.opening name as (.value k x (some q))) [q.char]
      (.opening name (as.record k x) .gap) := by
  have hlt : q.char ≠ '<' := by cases q <;> decide
  apply leads_opening hlt
  intro s
  simp only [Scan.readOpening, if_true]

theorem leads_unquoted {x : Text} (h : IsValue x none) (hfirst : x.head?.any isQuote = false) :
    Leads v (.opening name as (.beforeValue k)) x (.opening name as (.value k x none)) := by
  obtain ⟨hne, hchars⟩ := h
  cases x with
  | nil => exact absurd rfl hne
  | cons c t =>
    refine Leads.begin (f := fun y => .opening name as (.value k y none)) ?_ fun y d hd => ?_
    · obtain ⟨hlt, hgt, hblank⟩ := hchars c List.mem_cons_self
      have hquote : Quote.ofChar? c = none := Quote.ofChar?_eq_none_iff.2 hfirst
      apply leads_opening hlt
      intro s
      simp only [Scan.readOpening, hgt, hblank, hquote, Bool.false_eq_true, if_false]
    · obtain ⟨hlt, hgt, hblank⟩ := hchars d (List.mem_cons_of_mem c hd)
      apply leads_opening hlt
      intro s
      simp only [Scan.readOpening, hgt, hblank, Bool.false_eq_true, if_false]

/-! ## Attributes and tags -/

theorem ValueForm.leads {form : ValueForm} (h : form.WellFormed) :
    ∃ as' part', Leads v (.opening name as (.key k)) form.written (.opening name as' part') ∧
      part'.IsResting ∧ part'.settle as' = as.record k form.value ∧
      (part'.IsBareValue → form.IsUnquoted) := by
  cases form with
  | bare => exact ⟨as, .key k, Leads.nil, trivial, rfl, False.elim⟩
  | quoted before after q x =>
    obtain ⟨hbefore, hafter, hx⟩ := h
    refine ⟨as.record k x, .gap, (leads_equals hbefore hafter).append ?_, trivial, rfl, False.elim⟩
    exact (leads_quoted hx).append leads_quote
  | unquoted before after x =>
    obtain ⟨hbefore, hafter, hx, hfirst⟩ := h
    refine ⟨as, .value k x none, (leads_equals hbefore hafter).append ?_, trivial, rfl,
      fun _ => trivial⟩
    exact leads_unquoted hx hfirst

theorem WrittenAttribute.leads {a : WrittenAttribute} (h : a.WellFormed) (hpart : part.IsResting) :
    ∃ as' part', Leads v (.opening name as part) a.written (.opening name as' part') ∧
      part'.IsResting ∧ part'.settle as' = (part.settle as).record a.key a.form.value ∧
      (part'.IsBareValue → a.form.IsUnquoted) := by
  obtain ⟨as₁, part₁, hlead, hspaced, hsettle⟩ := leads_blanks hpart h.lead_blank h.lead_ne_nil
  obtain ⟨as₂, part₂, hform, hresting, hsettle₂, hbare⟩ := ValueForm.leads h.form
  refine ⟨as₂, part₂, hlead.append ((leads_key hspaced h.key).append hform), hresting, ?_, hbare⟩
  rw [hsettle₂, hsettle]

theorem Attributes.ofWritten_concat (l : List WrittenAttribute) (a : WrittenAttribute) :
    Attributes.ofWritten (l ++ [a]) = (Attributes.ofWritten l).record a.key a.form.value := by
  rw [Attributes.ofWritten, List.foldl_append]
  rfl

theorem leads_attributes {l : List WrittenAttribute} (h : ∀ a ∈ l, a.WellFormed) :
    ∃ as part, Leads v (.opening name [] .name) (l.flatMap WrittenAttribute.written)
        (.opening name as part) ∧
      part.IsResting ∧ part.settle as = Attributes.ofWritten l ∧
      (part.IsBareValue → ∃ a ∈ l.getLast?, a.form.IsUnquoted) := by
  -- from the end, as only the last attribute decides whether a value is pending
  induction l using List.reverseRecOn with
  | nil => exact ⟨[], .name, Leads.nil, trivial, rfl, False.elim⟩
  | append_singleton l a ih =>
    obtain ⟨as₁, part₁, hlead, hresting, hsettle, -⟩ :=
      ih fun b hb => h b (List.mem_append_left [a] hb)
    obtain ⟨as₂, part₂, hlead₂, hresting₂, hsettle₂, hbare⟩ :=
      WrittenAttribute.leads (h a (List.mem_append_right l List.mem_cons_self)) hresting
    refine ⟨as₂, part₂, ?_, hresting₂, ?_, fun hpart => ⟨a, ?_, hbare hpart⟩⟩
    · rw [List.flatMap_append, List.flatMap_singleton]
      exact hlead.append hlead₂
    · rw [hsettle₂, hsettle, Attributes.ofWritten_concat]
    · exact List.getLast?_concat

theorem StartTag.leads {t : StartTag} (h : t.WellFormed) :
    ∃ as part, Leads v .text t.written (.opening t.name as part) ∧ part.IsResting ∧
      part.settle as = Attributes.ofWritten t.attributes ∧
      (t.AdmitsSlash → ¬ part.IsBareValue) := by
  obtain ⟨as, part, hattributes, hresting, hsettle, hbare⟩ := leads_attributes h.attributes
  have hname : Leads v .text ('<' :: t.name) (.opening t.name [] .name) :=
    (leads_lt rfl).cons (leads_name h.name)
  by_cases htrail : t.trail = []
  · -- the last attribute may be pending still
    refine ⟨as, part, ?_, hresting, hsettle, fun hslash hpart => ?_⟩
    · rw [StartTag.written, htrail, List.append_nil]
      exact hname.append hattributes
    · obtain ⟨a, ha, hform⟩ := hbare hpart
      exact hslash htrail a ha hform
  · obtain ⟨as', part', hblanks, hspaced, hsettle'⟩ := leads_blanks hresting h.trail htrail
    refine ⟨as', part', (hname.append hattributes).append hblanks, hspaced.isResting, ?_,
      fun _ => hspaced.not_isBareValue⟩
    rw [hsettle', hsettle]

end Tag

end MarkupCompletion
