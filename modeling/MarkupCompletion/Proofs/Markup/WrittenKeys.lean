import MarkupCompletion.Proofs.Markup.Attributes

/-
  The names that have been written in an open tag.

  `writtenKeys v t` lists the names of attributes that were written in the tag that is
  open at the end of `t`: each name that the reading stood at when something followed
  that is not a part of it. What the reading itself keeps are attributes, recorded with
  their values, and it records an attribute only when its value is known. So a name may
  have been written and not be recorded yet, but no more than one, and that is the last
  one (`writtenKeys_accounted`). One character keeps the account (`step_accounted`): it
  goes on with what is being read, ends a name, records an attribute, or both at once
  (`TagPart.Continues`).
-/

namespace MarkupCompletion

namespace TagPart

/-- The name that has ended while it is open which value belongs to it. -/
def heldKey? : TagPart → Option Text
  | .afterKey k | .beforeValue k | .value k _ _ => some k
  | .name | .gap | .key _ | .slash => none

/-- The name that ends where the reading goes on from one part of a tag to another. -/
def ended : TagPart → TagPart → List Text
  | .key _, .key _ => []
  | .key k, _ => [k]
  | _, _ => []

theorem ended_of_heldKey? {part part' : TagPart} {k : Text} (h : part.heldKey? = some k) :
    part.ended part' = [] := by
  cases part with
  | key k => cases h
  | _ => rfl

theorem ended_key {part' : TagPart} {k k' : Text} (h : part'.heldKey? = some k') :
    (TagPart.key k).ended part' = [k] := by
  cases part' with
  | key k' => cases h
  | _ => rfl

end TagPart

/-- The names written in a tag after one more character. Outside opening tags there are
none. -/
def Place.keysOn (keys : List Text) : Place → Place → List Text
  | .opening _ _ part, .opening _ _ part' => keys ++ part.ended part'
  | _, _ => []

/-- The names written in the tag that is open after a text, from those before it. -/
def Scan.keysFrom (v : VoidElements) : Scan → List Text → Text → List Text
  | _, keys, [] => keys
  | s, keys, c :: t =>
    keysFrom v (s.step v c) (Place.keysOn keys s.place (s.step v c).place) t

/-- The names of the attributes that have been written in the tag that is open at the end
of a text, in order, as often as they were written. -/
def writtenKeys (v : VoidElements) (t : Text) : List Text := Scan.keysFrom v {} [] t

/-! ## The account of a tag -/

/-- Whether the attributes of a tag are those of all names written in it, but for the one
that is held. -/
def Attributes.Accounted (as : Attributes) (part : TagPart) (keys : List Text) : Prop :=
  ∃ settled, (∀ k, as.has k = true ↔ k ∈ settled) ∧ keys = settled ++ part.heldKey?.toList

/-- Whether a place accounts for the names written in the tag that is open at it. -/
def Place.Accounted (keys : List Text) : Place → Prop
  | .opening _ as part => as.Accounted part keys
  | _ => keys = []

theorem Attributes.has_record {as : Attributes} {key value k : Text} :
    (as.record key value).has k = true ↔ as.has k = true ∨ k = key := by
  rw [has_eq_isSome_lookup, lookup_record, has_eq_isSome_lookup, Option.isSome_or]
  by_cases h : k = key
  · simp [h]
  · simp [h, beq_false_of_ne (Ne.symm h)]

namespace TagPart

/-- How the attributes and the part that is read go on with one character that stays in
the tag. -/
inductive Continues (as : Attributes) (part : TagPart) : Attributes → TagPart → Prop where
  /-- no name ends and no attribute is recorded -/
  | same (part' : TagPart) :
    part'.heldKey? = part.heldKey? → part.ended part' = [] → Continues as part as part'
  /-- a name ends that may have a value -/
  | held (k : Text) (part' : TagPart) :
    part = .key k → part'.heldKey? = some k → Continues as part as part'
  /-- a name ends that has no value -/
  | bare (k : Text) : part = .key k → Continues as part (as.record k []) .slash
  /-- the attribute of the name that is held is recorded -/
  | recorded (k x : Text) (part' : TagPart) :
    part.heldKey? = some k → part'.heldKey? = none → Continues as part (as.record k x) part'

theorem Continues.accounted {as as' : Attributes} {part part' : TagPart} {keys : List Text}
    (h : part.Continues as as' part') (hkeys : as.Accounted part keys) :
    as'.Accounted part' (keys ++ part.ended part') := by
  obtain ⟨settled, hhas, rfl⟩ := hkeys
  -- an attribute that is recorded settles its name
  have hrecord (k x : Text) : ∀ k', (as.record k x).has k' = true ↔ k' ∈ settled ++ [k] := by
    intro k'
    rw [Attributes.has_record, hhas k', List.mem_append, List.mem_singleton]
  cases h with
  | same part' hheld hended => exact ⟨settled, hhas, by rw [hheld, hended, List.append_nil]⟩
  | held k part' hpart hheld =>
    subst hpart
    refine ⟨settled, hhas, ?_⟩
    rw [ended_key hheld, hheld]
    simp [heldKey?]
  | bare k hpart =>
    subst hpart
    exact ⟨settled ++ [k], hrecord k [], by simp [heldKey?, ended]⟩
  | recorded k x part' hheld hnone =>
    exact ⟨settled ++ [k], hrecord k x, by simp [hheld, hnone, ended_of_heldKey? hheld]⟩

end TagPart

/-! ## One character -/

/-- Whether a place is in the same tag, further on, or in no tag. -/
inductive Place.GoesOn (as : Attributes) (part : TagPart) : Place → Prop where
  | within (name : Text) (as' : Attributes) (part' : TagPart) :
    part.Continues as as' part' → GoesOn as part (.opening name as' part')
  | left (p : Place) : p.inOpeningTag = false → GoesOn as part p

theorem Place.GoesOn.accounted {name : Text} {as : Attributes} {part : TagPart} {p : Place}
    {keys : List Text} (h : Place.GoesOn as part p)
    (hkeys : Place.Accounted keys (.opening name as part)) :
    Place.Accounted (Place.keysOn keys (.opening name as part) p) p := by
  cases h with
  | within name' as' part' hgoes => exact hgoes.accounted hkeys
  | left p hout =>
    cases p with
    | opening name' as' part' => cases hout
    | _ => rfl

/-- Whether a place is in no tag that was open before: if it is in an opening tag, then at
its start. -/
def Place.IsEntry : Place → Prop
  | .opening _ as part => as = [] ∧ part = .name
  | _ => True

theorem Place.exists_of_inOpeningTag {p : Place} (h : p.inOpeningTag = true) :
    ∃ name as part, p = .opening name as part := by
  cases p with
  | opening name as part => exact ⟨name, as, part, rfl⟩
  | _ => cases h

theorem Place.IsEntry.accounted {p p' : Place} (h : p'.IsEntry) (hp : p.inOpeningTag = false)
    (keys : List Text) : p'.Accounted (p.keysOn keys p') := by
  have hnone : p.keysOn keys p' = [] := by
    cases p with
    | opening name as part => cases hp
    | _ => rfl
  rw [hnone]
  cases p' with
  | opening name as part =>
    obtain ⟨rfl, rfl⟩ := h
    exact ⟨[], by simp [Attributes.has], rfl⟩
  | _ => rfl

namespace Scan

variable {v : VoidElements} {s : Scan} {c : Char} {name : Text} {as : Attributes} {part : TagPart}

theorem readGap_goesOn (hheld : part.heldKey? = none) (hended : ∀ part', part.ended part' = []) :
    Place.GoesOn as part (s.readGap v name as c).place := by
  simp only [readGap]
  split
  · exact Place.GoesOn.left _ rfl
  · split
    · exact Place.GoesOn.within name as .slash (.same _ hheld.symm (hended _))
    · split
      · exact Place.GoesOn.within name as .gap (.same _ hheld.symm (hended _))
      · exact Place.GoesOn.within name as (.key [c]) (.same _ hheld.symm (hended _))

theorem readOpening_goesOn (hs : s.place = .opening name as part) :
    Place.GoesOn as part (s.readOpening v name as c part).place := by
  have on (name' : Text) (part' : TagPart) (hheld : part'.heldKey? = part.heldKey?)
      (hended : part.ended part' = []) :
      Place.GoesOn as part (s.moveTo (.opening name' as part')).place :=
    Place.GoesOn.within name' as part' (.same part' hheld hended)
  have stays (hended : part.ended part = []) : Place.GoesOn as part s.place := by
    rw [hs]
    exact on name part rfl hended
  have held (k : Text) (part' : TagPart) (hpart : part = .key k) (hheld : part'.heldKey? = some k) :
      Place.GoesOn as part (s.moveTo (.opening name as part')).place :=
    Place.GoesOn.within name as part' (.held k part' hpart hheld)
  have recorded (k x : Text) (part' : TagPart) (hheld : part.heldKey? = some k)
      (hnone : part'.heldKey? = none) :
      Place.GoesOn as part (s.moveTo (.opening name (as.record k x) part')).place :=
    Place.GoesOn.within name _ part' (.recorded k x part' hheld hnone)
  have ends : Place.GoesOn as part (s.openElement v name).place := Place.GoesOn.left _ rfl
  cases part with
  | name =>
    simp only [readOpening]
    split
    · exact ends
    · split
      · exact on name .slash rfl rfl
      · split
        · exact on name .gap rfl rfl
        · exact on (name ++ [c]) .name rfl rfl
  | gap => exact readGap_goesOn rfl fun _ => rfl
  | key k =>
    simp only [readOpening]
    split
    · exact held k (.beforeValue k) rfl rfl
    · split
      · exact ends
      · split
        · exact Place.GoesOn.within name _ _ (.bare k rfl)
        · split
          · exact held k (.afterKey k) rfl rfl
          · split
            · exact stays rfl
            · exact on name (.key (k ++ [c])) rfl rfl
  | afterKey k =>
    simp only [readOpening]
    split
    · exact on name (.beforeValue k) rfl rfl
    · split
      · exact ends
      · split
        · exact recorded k [] .slash rfl rfl
        · split
          · exact stays rfl
          · exact recorded k [] (.key [c]) rfl rfl
  | beforeValue k =>
    simp only [readOpening]
    split
    · exact ends
    · split
      · exact stays rfl
      · split
        · exact on name (.value k [] _) rfl rfl
        · exact on name (.value k [c] none) rfl rfl
  | value k x quote =>
    cases quote with
    | some q =>
      simp only [readOpening]
      split
      · exact recorded k x .gap rfl rfl
      · exact on name (.value k (x ++ [c]) (some q)) rfl rfl
    | none =>
      simp only [readOpening]
      split
      · exact ends
      · split
        · exact recorded k x .gap rfl rfl
        · exact on name (.value k (x ++ [c]) none) rfl rfl
  | slash =>
    simp only [readOpening]
    split
    · exact Place.GoesOn.left _ rfl
    · exact readGap_goesOn rfl fun _ => rfl

theorem readAngle_isEntry (s : Scan) (c : Char) : (s.readAngle c).place.IsEntry := by
  simp only [readAngle]
  split
  · trivial
  · split
    · trivial
    · split
      · exact ⟨rfl, rfl⟩
      · trivial

theorem readClosing_isEntry {ended : Bool} (hs : s.place = .closing name ended) :
    (s.readClosing v name ended c).place.IsEntry := by
  simp only [readClosing]
  split
  · trivial
  · split
    · trivial
    · split
      · rw [hs]
        trivial
      · trivial

theorem readDeclaration_isEntry (s : Scan) (keyword : Text) (c : Char) :
    (s.readDeclaration keyword c).place.IsEntry := by
  simp only [readDeclaration]
  split
  · split
    · trivial
    · trivial
  · split
    · trivial
    · split
      · trivial
      · split
        · trivial
        · trivial

theorem readDoctype_isEntry (s : Scan) (body : Text) (quote : Option Quote) (c : Char) :
    (s.readDoctype body quote c).place.IsEntry := by
  simp only [readDoctype]
  split
  · trivial
  · split
    · trivial
    · trivial

theorem readSection_isEntry (s : Scan) (kind : Section) (tail : Text) (c : Char) :
    (s.readSection kind tail c).place.IsEntry := by
  simp only [readSection]
  split
  · trivial
  · trivial

theorem react_isEntry (hs : s.place.inOpeningTag = false) : (s.react v c).place.IsEntry := by
  simp only [react]
  split
  · trivial
  · split
    · next hp =>
      rw [hp]
      trivial
    · exact readAngle_isEntry s c
    · next hp =>
      rw [hp] at hs
      cases hs
    · next hp => exact readClosing_isEntry hp
    · exact readDeclaration_isEntry s _ c
    · exact readDoctype_isEntry s _ _ c
    · exact readSection_isEntry s _ _ c

theorem step_accounted {keys : List Text} (h : s.place.Accounted keys) (c : Char) :
    (s.step v c).place.Accounted (Place.keysOn keys s.place (s.step v c).place) := by
  change (s.react v c).place.Accounted (Place.keysOn keys s.place (s.react v c).place)
  by_cases hin : s.place.inOpeningTag = true
  · obtain ⟨name, as, part, hs⟩ := Place.exists_of_inOpeningTag hin
    rw [hs] at h ⊢
    by_cases hc : c = '<'
    · rw [hc, react_lt (by rw [hs]; rfl)]
      rfl
    · rw [react_opening hs hc]
      exact (readOpening_goesOn hs).accounted h
  · rw [Bool.not_eq_true] at hin
    exact (react_isEntry hin).accounted hin keys

theorem keysFrom_accounted {keys : List Text} (h : s.place.Accounted keys) (t : Text) :
    (s.feed v t).place.Accounted (s.keysFrom v keys t) := by
  induction t generalizing s keys with
  | nil => exact h
  | cons c t ih => exact ih (step_accounted h c)

end Scan

variable {v : VoidElements} {t : Text}

/-- The attributes of the tag that is open after a text are those of all names written in
it, but for the one that is held. -/
theorem writtenKeys_accounted (v : VoidElements) (t : Text) :
    (Scan.feed v {} t).place.Accounted (writtenKeys v t) :=
  Scan.keysFrom_accounted (s := {}) rfl t

/-- The names written in a tag whose attributes are recorded: all, but for the last one
where it is held. -/
def TagPart.settledKeys (part : TagPart) (keys : List Text) : List Text :=
  match part.heldKey? with
  | none => keys
  | some _ => keys.dropLast

/-- An attribute is recorded if and only if its name is settled, and a name that is held
is the last one that was written. -/
theorem Attributes.has_iff_mem_settledKeys {name : Text} {as : Attributes} {part : TagPart}
    (h : (Scan.feed v {} t).place = .opening name as part) :
    (∀ k, as.has k = true ↔ k ∈ part.settledKeys (writtenKeys v t)) ∧
      writtenKeys v t = part.settledKeys (writtenKeys v t) ++ part.heldKey?.toList := by
  have hkeys := writtenKeys_accounted v t
  rw [h] at hkeys
  obtain ⟨settled, hhas, heq⟩ := hkeys
  have hsettled : part.settledKeys (writtenKeys v t) = settled := by
    rw [heq, TagPart.settledKeys]
    cases part.heldKey? with
    | none => simp
    | some k => simp
  rw [hsettled]
  exact ⟨hhas, heq⟩

example : writtenKeys .html "<a q='1'><b x y = '>' c=1/ x/ d\t" = ["x", "y", "c", "x", "d"] := by
  decide +kernel

end MarkupCompletion
