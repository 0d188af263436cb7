import MarkupCompletion.Markup.Cursor
import MarkupCompletion.Proofs.Markup.StartTag

/-
  The attributes of a tag that is still open.

  Of the attributes that are written in a tag each key keeps its first value
  (`Attributes.ofWritten_holdsFirst`), however they are written. Two places show them
  before the tag has ended: after a `/` that may close it, and inside a value in
  quotes, where the attribute of that value is not among them yet (`feed_attributes`).
-/

namespace MarkupCompletion

namespace Attributes

variable {as : Attributes} {l : List WrittenAttribute}

/-- Whether `as` is the map that gives each key the first value that is written for it
in `l`, an attribute without a value counting as one with an empty value. -/
structure HoldsFirst (as : Attributes) (l : List WrittenAttribute) : Prop where
  nodup : (as.map Prod.fst).Nodup
  lookup : ∀ key, as.lookup key = (l.find? fun a => a.key == key).map fun a => a.form.value

theorem has_eq_isSome_lookup (as : Attributes) (key : Text) :
    as.has key = (as.lookup key).isSome := by
  rw [Bool.eq_iff_iff, has, List.any_eq_true, List.lookup_isSome_iff]
  simp only [Bool.beq_comm]

theorem lookup_record (as : Attributes) (key value k : Text) :
    (as.record key value).lookup k =
      (as.lookup k).or (if key == k then some value else none) := by
  rw [record, has_eq_isSome_lookup]
  by_cases hk : key = k
  · subst hk
    cases hfound : as.lookup key with
    | some x => simp [hfound]
    | none => simp [hfound, List.lookup_append]
  · have hne : (key == k) = false := beq_eq_false_iff_ne.2 hk
    have hne' : (k == key) = false := beq_eq_false_iff_ne.2 (Ne.symm hk)
    split
    · simp [hne]
    · simp [hne, hne', List.lookup_append, List.lookup_cons]

theorem HoldsFirst.nil : HoldsFirst [] [] := ⟨List.nodup_nil, fun _ => rfl⟩

theorem HoldsFirst.concat (h : as.HoldsFirst l) (a : WrittenAttribute) :
    (as.record a.key a.form.value).HoldsFirst (l ++ [a]) where
  nodup := nodup_record h.nodup a.key a.form.value
  lookup := by
    intro key
    rw [lookup_record, h.lookup key, List.find?_append, Option.map_or]
    congr 1
    cases hkey : a.key == key <;> simp [hkey]

theorem ofWritten_holdsFirst (l : List WrittenAttribute) : (ofWritten l).HoldsFirst l := by
  induction l using List.reverseRecOn with
  | nil => exact HoldsFirst.nil
  | append_singleton l a ih =>
    rw [ofWritten_concat]
    exact ih.concat a

end Attributes

section Tag

variable {v : VoidElements} {t : StartTag}

theorem StartTag.leads_to_slash (h : t.WellFormed) (hslash : t.AdmitsSlash) :
    Leads v .text (t.written ++ ['/'])
      (.opening t.name (Attributes.ofWritten t.attributes) .slash) := by
  obtain ⟨as, part, hlead, hpart, hsettle, hbare⟩ := StartTag.leads (v := v) h
  rw [← hsettle]
  exact hlead.append (leads_slash hpart (hbare hslash))

/-- A tag with blanks at its end, and one more attribute up to the inside of its value. -/
theorem StartTag.leads_to_value (h : t.WellFormed) (htrail : t.trail ≠ []) {key before after : Text}
    {q : Quote} {x : Text} (hkey : IsKey key) (hbefore : AreBlank before)
    (hafter : AreBlank after) (hx : IsValue x (some q)) :
    Leads v .text (t.written ++ (key ++ (before ++ '=' :: after ++ q.char :: x)))
      (.opening t.name (Attributes.ofWritten t.attributes) (.value key x (some q))) := by
  obtain ⟨as, part, hattributes, hresting, hsettle, -⟩ := leads_attributes h.attributes
  obtain ⟨as', part', hblanks, hspaced, hsettle'⟩ := leads_blanks hresting h.trail htrail
  have hname : Leads v .text ('<' :: t.name) (.opening t.name [] .name) :=
    (leads_lt rfl).cons (leads_name h.name)
  -- the blanks have ended the last attribute, so the key settles it
  have hlast : Leads v (.opening t.name as' part')
      (key ++ (before ++ '=' :: after ++ q.char :: x))
      (.opening t.name (part'.settle as') (.value key x (some q))) :=
    (leads_key hspaced hkey).append ((leads_equals hbefore hafter).append (leads_quoted hx))
  rw [hsettle', hsettle] at hlast
  exact ((hname.append hattributes).append hblanks).append hlast

/-- **A tag is read with the attributes that are written in it.** From character data,
after the `/` that may close the tag the cursor is between its attributes, and inside
the value of a further attribute it is at that value. Either way the attributes are the
first ones written of each key, and the open elements are what they were. -/
theorem feed_attributes (v : VoidElements) {t : StartTag} (h : t.WellFormed) {s : Scan}
    (hs : s.place = .text) :
    (t.AdmitsSlash →
      let s' := s.feed v (t.written ++ ['/'])
      ∃ as : Attributes, as.HoldsFirst t.attributes ∧ s'.place = .opening t.name as .slash ∧
        s'.stack = s.stack ∧ s'.cursor = .attributeName t.name [] as) ∧
    (t.trail ≠ [] → ∀ key before after q x, IsKey key → AreBlank before → AreBlank after →
      IsValue x (some q) →
      let s' := s.feed v (t.written ++ (key ++ (before ++ '=' :: after ++ q.char :: x)))
      ∃ as : Attributes, as.HoldsFirst t.attributes ∧
        s'.place = .opening t.name as (.value key x (some q)) ∧
        s'.stack = s.stack ∧ s'.cursor = .attributeValue t.name key x) := by
  have hfirst := Attributes.ofWritten_holdsFirst t.attributes
  refine ⟨fun hslash => ?_, fun htrail key before after q x hkey hbefore hafter hx => ?_⟩
  · have hfeed := StartTag.leads_to_slash (v := v) h hslash s hs
    exact ⟨_, hfirst, by rw [hfeed], by rw [hfeed]; rfl, by rw [hfeed]; rfl⟩
  · have hfeed := StartTag.leads_to_value (v := v) h htrail hkey hbefore hafter hx s hs
    exact ⟨_, hfirst, by rw [hfeed], by rw [hfeed]; rfl, by rw [hfeed]; rfl⟩

/-- Two values of one key, a key that differs from it in letter case alone, and a `/`
that belongs to a value. -/
theorem feed_attributes_with_repeated_key :
    let t : StartTag :=
      ⟨"svg:a", [⟨" ", "x", .quoted "" " " .double "1 >"⟩, ⟨"\n", "X", .bare⟩,
        ⟨" ", "x", .unquoted " " "" "2/'"⟩], " "⟩
    let s : Scan := { enclosing := ["body"] }
    let closed := s.feed .html (t.written ++ ['/'])
    let valued := s.feed .html (t.written ++ ("x" ++ ("" ++ '=' :: "\t" ++ '\'' :: "3\"")))
    t.WellFormed ∧ s.place = .text ∧ t.AdmitsSlash ∧ t.trail ≠ [] ∧
    (∃ as : Attributes, as.HoldsFirst t.attributes ∧ closed.place = .opening t.name as .slash ∧
      closed.stack = s.stack ∧ closed.cursor = .attributeName t.name [] as) ∧
    (∃ as : Attributes, as.HoldsFirst t.attributes ∧
      valued.place = .opening t.name as (.value "x" "3\"" (some .single)) ∧
      valued.stack = s.stack ∧ valued.cursor = .attributeValue t.name "x" "3\"") ∧
    closed.cursor = .attributeName "svg:a" [] [("x", "1 >"), ("X", "")] := by
  intro t s closed valued
  have ht : t.WellFormed := by decide +kernel
  have hs : s.place = .text := rfl
  obtain ⟨hclosed, hvalued⟩ := feed_attributes .html ht hs
  have hkey : IsKey "x" := by decide +kernel
  have hafter : AreBlank "\t" := by decide +kernel
  have hx : IsValue "3\"" (some .single) := by decide +kernel
  exact ⟨ht, hs, by decide +kernel, by decide, hclosed (by decide +kernel),
    hvalued (by decide) "x" "" "\t" .single "3\"" hkey (by decide +kernel) hafter hx,
    by decide +kernel⟩

end Tag

end MarkupCompletion
