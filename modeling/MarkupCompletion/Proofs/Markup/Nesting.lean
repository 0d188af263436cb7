import MarkupCompletion.Proofs.Markup.StartTag
import Mathlib.Data.List.TakeWhile

/-
  Documents that are written as trees, and the elements they leave open.

  A `Forest` is a row of texts, sections and elements, with forests as the content
  of elements. End tags may be left out for the last element of a row. Reading a
  forest opens exactly the elements that its end tags leave open, and does nothing
  else to the scan (`Forest.opens`). An end tag closes the nearest element of its
  name, with all that is open inside. As long as that is the element it was
  written for, these are the elements at the end whose end tags were left out
  (`feed_forest`).
-/

namespace MarkupCompletion

/-- An end tag as it is written. -/
structure EndTag where
  lead : Text
  name : Text
  trail : Text
  deriving DecidableEq, Repr

namespace EndTag

def written (e : EndTag) : Text := '<' :: '/' :: e.lead ++ e.name ++ e.trail ++ ['>']

/-- Whether it is written for an element of the name. -/
structure Ends (e : EndTag) (name : Text) : Prop where
  lead : AreBlank e.lead
  same : Text.sameAscii e.name name = true
  trail : AreBlank e.trail

instance (e : EndTag) (name : Text) : Decidable (e.Ends name) :=
  decidable_of_iff
    (AreBlank e.lead ∧ Text.sameAscii e.name name = true ∧ AreBlank e.trail)
    ⟨fun ⟨hlead, hsame, htrail⟩ => ⟨hlead, hsame, htrail⟩, fun h => ⟨h.lead, h.same, h.trail⟩⟩

end EndTag

/-- A row of texts, sections and elements. -/
inductive Forest where
  | nil
  | text (t : Text) (rest : Forest)
  | skipped (kind : Section) (body : Text) (rest : Forest)
  | void (tag : StartTag) (rest : Forest)
  /-- an element that closes itself -/
  | selfClosed (tag : StartTag) (rest : Forest)
  | closed (tag : StartTag) (content : Forest) (endTag : EndTag) (rest : Forest)
  /-- an element without an end tag: all that follows is its content -/
  | unclosed (tag : StartTag) (content : Forest)
  deriving DecidableEq, Repr

namespace Forest

def written : Forest → Text
  | nil => []
  | text t rest => t ++ rest.written
  | skipped kind body rest => kind.written body ++ rest.written
  | void tag rest => tag.written ++ ['>'] ++ rest.written
  | selfClosed tag rest => tag.written ++ ['/', '>'] ++ rest.written
  | closed tag content endTag rest =>
    tag.written ++ ['>'] ++ content.written ++ endTag.written ++ rest.written
  | unclosed tag content => tag.written ++ ['>'] ++ content.written

/-- Whether every part is read as what it is written for. -/
def WellFormed (v : VoidElements) : Forest → Prop
  | nil => True
  | text t rest => IsPlain t ∧ rest.WellFormed v
  | skipped kind body rest => kind.IsOpen body ∧ rest.WellFormed v
  | void tag rest => tag.WellFormed ∧ v.isVoid tag.name = true ∧ rest.WellFormed v
  | selfClosed tag rest => tag.WellFormed ∧ tag.AdmitsSlash ∧ rest.WellFormed v
  | closed tag content endTag rest =>
    tag.WellFormed ∧ v.isVoid tag.name = false ∧ content.WellFormed v ∧ endTag.Ends tag.name ∧
      rest.WellFormed v
  | unclosed tag content => tag.WellFormed ∧ v.isVoid tag.name = false ∧ content.WellFormed v

instance decidableWellFormed (v : VoidElements) : (f : Forest) → Decidable (f.WellFormed v)
  | nil => inferInstanceAs (Decidable True)
  | text _ rest | skipped _ _ rest | void _ rest | selfClosed _ rest =>
    have := decidableWellFormed v rest
    inferInstanceAs (Decidable (_ ∧ _))
  | closed _ content _ rest =>
    have := decidableWellFormed v content
    have := decidableWellFormed v rest
    inferInstanceAs (Decidable (_ ∧ _))
  | unclosed _ content =>
    have := decidableWellFormed v content
    inferInstanceAs (Decidable (_ ∧ _))

/-- The names of the elements at the end whose end tags were left out, outermost
first. -/
def openNames : Forest → List Text
  | nil => []
  | text _ rest | skipped _ _ rest | void _ rest | selfClosed _ rest | closed _ _ _ rest =>
    rest.openNames
  | unclosed tag content => tag.name :: content.openNames

/-- Whether no end tag meets an open element of its name inside the element that it
was written for. -/
def Unshadowed : Forest → Prop
  | nil => True
  | text _ rest | skipped _ _ rest | void _ rest | selfClosed _ rest => rest.Unshadowed
  | closed tag content _ rest =>
    (∀ n ∈ content.openNames, Text.sameAscii n tag.name = false) ∧ content.Unshadowed ∧
      rest.Unshadowed
  | unclosed _ content => content.Unshadowed

instance decidableUnshadowed : (f : Forest) → Decidable f.Unshadowed
  | nil => inferInstanceAs (Decidable True)
  | text _ rest | skipped _ _ rest | void _ rest | selfClosed _ rest => decidableUnshadowed rest
  | closed _ content _ rest =>
    have := decidableUnshadowed content
    have := decidableUnshadowed rest
    inferInstanceAs (Decidable (_ ∧ _))
  | unclosed _ content => decidableUnshadowed content

/-- The names of the elements that the end tags leave open, innermost first. -/
def leftOpen : Forest → List Text
  | nil => []
  | text _ rest | skipped _ _ rest | void _ rest | selfClosed _ rest => rest.leftOpen
  | closed tag content _ rest =>
    rest.leftOpen ++ closeNearest tag.name (content.leftOpen ++ [tag.name])
  | unclosed tag content => content.leftOpen ++ [tag.name]

end Forest

/-! ## Closing the nearest element -/

theorem closeNearest_congr {a b : Text} (h : Text.sameAscii a b = true) (l : List Text) :
    closeNearest a l = closeNearest b l := by
  simp only [closeNearest, Text.sameAscii_congr h]

/-- Where an element of the name is open, the elements around it stay open. -/
theorem closeNearest_append {name : Text} {l : List Text}
    (h : ∃ e ∈ l, Text.sameAscii e name = true) (outer : List Text) :
    closeNearest name (l ++ outer) = closeNearest name l ++ outer := by
  obtain ⟨e, he, hsame⟩ := h
  have hne : l.dropWhile (fun e => !Text.sameAscii e name) ≠ [] := by
    intro hnil
    have hall := List.dropWhile_eq_nil_iff.1 hnil e he
    rw [hsame] at hall
    exact Bool.noConfusion hall
  rw [closeNearest, closeNearest, List.dropWhile_append, if_neg (by simpa using hne)]
  cases hd : l.dropWhile (fun e => !Text.sameAscii e name) with
  | nil => exact absurd hd hne
  | cons d r => rfl

/-- Where no element inside has its name, an element is closed with all inside. -/
theorem closeNearest_self {name : Text} {l : List Text}
    (h : ∀ e ∈ l, Text.sameAscii e name = false) : closeNearest name (l ++ [name]) = [] := by
  have hdrop : l.dropWhile (fun e => !Text.sameAscii e name) = [] := by
    rw [List.dropWhile_eq_nil_iff]
    intro e he
    rw [h e he]
    rfl
  rw [closeNearest, List.dropWhile_append, hdrop]
  simp [Text.sameAscii_refl]

/-! ## Texts that open elements -/

/-- Whether reading a text between tags opens elements, innermost first, and does
nothing else. -/
def Opens (v : VoidElements) (t : Text) (names : List Text) : Prop :=
  ∀ s : Scan, s.place = .text →
    s.feed v t =
      { s with enclosing := names ++ s.enclosing, consumed := s.consumed + Text.size t }

variable {v : VoidElements} {t u : Text} {names inner : List Text}

theorem Opens.append (h : Opens v t names) (h' : Opens v u inner) :
    Opens v (t ++ u) (inner ++ names) := by
  intro s hs
  have h' :=
    h' { s with enclosing := names ++ s.enclosing, consumed := s.consumed + Text.size t } hs
  rw [Scan.feed_append, h s hs, h', Text.size_append, ← Nat.add_assoc, List.append_assoc]

theorem Leads.opens (h : Leads v .text t .text) : Opens v t [] := by
  intro s hs
  rw [h s hs, ← hs]
  rfl

/-! ## Tags -/

theorem StartTag.opens {tag : StartTag} (h : tag.WellFormed) :
    Opens v (tag.written ++ ['>']) (if v.isVoid tag.name then [] else [tag.name]) := by
  intro s hs
  obtain ⟨as, part, hlead, hpart, -, -⟩ := StartTag.leads (v := v) h
  rw [Scan.feed_append, hlead s hs, Scan.feed_cons, Scan.feed_nil, Scan.step,
    Scan.react_opening_end rfl hpart.ne_slash hpart.openQuote?_eq_none, Scan.openElement, hs,
    Text.size_append, ← Nat.add_assoc]
  split
  · rfl
  · rfl

theorem StartTag.opens_selfClosed {tag : StartTag} (h : tag.WellFormed) (hslash : tag.AdmitsSlash) :
    Opens v (tag.written ++ ['/', '>']) [] := by
  obtain ⟨as, part, hlead, hpart, -, hvalue⟩ := StartTag.leads (v := v) h
  have hend : Leads v (.opening tag.name (part.settle as) .slash) ['>'] .text :=
    Leads.step fun s hs => Scan.react_opening hs (by decide)
  exact (hlead.append ((leads_slash hpart (hvalue hslash)).cons hend)).opens

theorem leads_closing {lead name trail : Text} (hlead : AreBlank lead) (hne : name ≠ [])
    (hname : ∀ c ∈ name, endsName c = false) (htrail : AreBlank trail) :
    ∃ ended, Leads v (.closing [] false) (lead ++ name ++ trail) (.closing name ended) := by
  have hblank (n : Text) (ended : Bool) (c : Char) (hc : isBlank c = true) :
      Leads v (.closing n ended) [c] (.closing n (!n.isEmpty)) := by
    obtain ⟨hlt, hgt, -, -⟩ := ne_signs_of_isBlank hc
    apply Leads.step
    intro s hs
    rw [Scan.react_closing hs hlt]
    simp only [Scan.readClosing, hgt, hc, if_false, if_true]
  have hbefore : Leads v (.closing [] false) lead (.closing [] false) :=
    Leads.all fun c hc => hblank [] false c (hlead c hc)
  have hgrow : Leads v (.closing [] false) name (.closing ([] ++ name) false) := by
    refine Leads.grow (f := fun x => .closing x false) (fun x c hc => ?_) []
    obtain ⟨hblank, -, hlt, hgt, -, -⟩ := endsName_eq_false_iff.1 (hname c hc)
    apply Leads.step
    intro s hs
    rw [Scan.react_closing hs hlt]
    simp only [Scan.readClosing, hgt, hblank, Bool.false_eq_true, if_false]
  -- a blank ends the name only once there is one
  cases trail with
  | nil =>
    rw [List.append_nil]
    exact ⟨false, hbefore.append hgrow⟩
  | cons c t =>
    have hended : (!name.isEmpty) = true := by
      rw [Bool.not_eq_true', List.isEmpty_eq_false_iff]
      exact hne
    have hfirst := hblank name false c (htrail c List.mem_cons_self)
    rw [hended] at hfirst
    have hmore : Leads v (.closing name true) t (.closing name true) := by
      apply Leads.all
      intro d hd
      have hd' := hblank name true d (htrail d (List.mem_cons_of_mem c hd))
      rwa [hended] at hd'
    exact ⟨true, (hbefore.append hgrow).append (hfirst.cons hmore)⟩

theorem isVoid_congr {a b : Text} (h : Text.sameAscii a b = true) : v.isVoid a = v.isVoid b := by
  rw [VoidElements.isVoid, VoidElements.isVoid, Text.sameAscii_iff.1 h]

/-- An end tag closes the nearest element of the name it is written for. -/
theorem EndTag.closes {e : EndTag} {name : Text} (h : e.Ends name) (hname : IsElementName name)
    (hvoid : v.isVoid name = false) {s : Scan} (hs : s.place = .text) :
    s.feed v e.written =
      { s with
        enclosing := closeNearest name s.enclosing
        consumed := s.consumed + Text.size e.written } := by
  have hne : e.name ≠ [] := ne_nil_of_sameAscii h.same hname.ne_nil
  have hends := endsName_of_sameAscii h.same hname.2
  obtain ⟨ended, hinside⟩ := leads_closing (v := v) h.lead hne hends h.trail
  have hslash : Leads v .angle ['/'] (.closing [] false) :=
    Leads.step fun s hs => Scan.react_angle hs (by decide)
  have hbody := (leads_lt (p := .text) rfl).cons (hslash.cons hinside)
  have hempty : e.name.isEmpty = false := List.isEmpty_eq_false_iff.2 hne
  have hwritten : e.written = '<' :: '/' :: (e.lead ++ e.name ++ e.trail) ++ ['>'] := rfl
  rw [hwritten, Scan.feed_append, hbody s hs, Scan.feed_cons, Scan.feed_nil, Scan.step,
    Scan.react_closing_end rfl, Scan.closeElement, hempty, isVoid_congr h.same, hvoid,
    closeNearest_congr h.same, hs, Text.size_append, ← Nat.add_assoc]
  rfl

theorem Opens.close {e : EndTag} {name : Text} (h : Opens v t names) (he : e.Ends name)
    (hname : IsElementName name) (hvoid : v.isVoid name = false)
    (hopen : ∃ n ∈ names, Text.sameAscii n name = true) :
    Opens v (t ++ e.written) (closeNearest name names) := by
  intro s hs
  have hclose := EndTag.closes he hname hvoid (v := v)
    (s := { s with enclosing := names ++ s.enclosing, consumed := s.consumed + Text.size t }) hs
  rw [Scan.feed_append, h s hs, hclose, closeNearest_append hopen, Text.size_append,
    ← Nat.add_assoc]

/-! ## Forests -/

namespace Forest

/-- Reading a forest opens the elements that its end tags leave open. -/
theorem opens {f : Forest} (h : f.WellFormed v) : Opens v f.written f.leftOpen := by
  induction f with
  | nil => exact Leads.nil.opens
  | text t rest ih =>
    obtain ⟨ht, hrest⟩ := h
    have hall := (leads_plain ht).opens.append (ih hrest)
    rwa [List.append_nil] at hall
  | skipped kind body rest ih =>
    obtain ⟨hbody, hrest⟩ := h
    have hall := (leads_section hbody).opens.append (ih hrest)
    rwa [List.append_nil] at hall
  | void tag rest ih =>
    obtain ⟨htag, hvoid, hrest⟩ := h
    have hstart := StartTag.opens (v := v) htag
    rw [if_pos hvoid] at hstart
    have hall := hstart.append (ih hrest)
    rwa [List.append_nil] at hall
  | selfClosed tag rest ih =>
    obtain ⟨htag, hslash, hrest⟩ := h
    have hall := (StartTag.opens_selfClosed htag hslash).append (ih hrest)
    rwa [List.append_nil] at hall
  | closed tag content endTag rest ihContent ihRest =>
    obtain ⟨htag, hvoid, hcontent, hend, hrest⟩ := h
    have hstart := StartTag.opens (v := v) htag
    rw [if_neg (by rw [hvoid]; exact Bool.false_ne_true)] at hstart
    -- the element itself is open, so its end tag closes nothing around it
    have hopen : ∃ n ∈ content.leftOpen ++ [tag.name], Text.sameAscii n tag.name = true :=
      ⟨tag.name, List.mem_append_right _ List.mem_cons_self, Text.sameAscii_refl tag.name⟩
    exact ((hstart.append (ihContent hcontent)).close hend htag.name hvoid hopen).append
      (ihRest hrest)
  | unclosed tag content ih =>
    obtain ⟨htag, hvoid, hcontent⟩ := h
    have hstart := StartTag.opens (v := v) htag
    rw [if_neg (by rw [hvoid]; exact Bool.false_ne_true)] at hstart
    exact hstart.append (ih hcontent)

/-- Where end tags close the elements they were written for, only elements without
end tags are left open. -/
theorem leftOpen_eq {f : Forest} (h : f.Unshadowed) : f.leftOpen = f.openNames.reverse := by
  induction f with
  | nil => rfl
  | text t rest ih => exact ih h
  | skipped kind body rest ih => exact ih h
  | void tag rest ih => exact ih h
  | selfClosed tag rest ih => exact ih h
  | closed tag content endTag rest ihContent ihRest =>
    obtain ⟨hnames, hcontent, hrest⟩ := h
    rw [leftOpen, ihContent hcontent, closeNearest_self, List.append_nil, ihRest hrest]
    · rfl
    · intro n hn
      exact hnames n (List.mem_reverse.1 hn)
  | unclosed tag content ih =>
    rw [leftOpen, openNames, ih h, List.reverse_cons]

/-- An end tag that meets an element of its name inside leaves its own open. -/
example :
    let f : Forest := .closed ⟨"div", [], []⟩ (.unclosed ⟨"DIV", [], []⟩ .nil) ⟨[], "div", []⟩ .nil
    f.WellFormed .html ∧ f.leftOpen = ["div"] ∧ f.openNames = [] := by
  decide +kernel

end Forest

/-- Reading a forest between tags leaves the place and the doctype as they are and
opens the elements that its end tags leave open. Where every end tag closes the
element it was written for, these are the elements that have none. -/
theorem feed_forest {f : Forest} (h : f.WellFormed v) {s : Scan} (hs : s.place = .text) :
    s.feed v f.written =
        { s with
          enclosing := f.leftOpen ++ s.enclosing
          consumed := s.consumed + Text.size f.written } ∧
      (f.Unshadowed → (s.feed v f.written).stack = s.stack ++ f.openNames) := by
  have hfeed := Forest.opens h s hs
  refine ⟨hfeed, fun hshadow => ?_⟩
  rw [hfeed, Scan.stack, List.reverse_append, Forest.leftOpen_eq hshadow, List.reverse_reverse]
  rfl

theorem feed_forest_with_all_parts :
    let f : Forest :=
      .closed ⟨"ul", [⟨" ", "Class", .quoted "" " " .double "a > b"⟩, ⟨" ", "hidden", .bare⟩], []⟩
        (.void ⟨"br", [], " "⟩ <| .skipped .comment "-<p>->" <|
          .unclosed ⟨"li", [⟨" ", "id", .unquoted " " "" "/1"⟩], []⟩ (.text "1 < 2 <= 3 > 0" .nil))
        ⟨[], "UL", " "⟩ <|
      .skipped .cdata "</ul>" <| .selfClosed ⟨"svg:rect", [⟨" ", "x", .unquoted "" "" "0"⟩], " "⟩ <|
      .unclosed ⟨"P", [], []⟩ (.unclosed ⟨"b", [], []⟩ .nil)
    f.WellFormed .html ∧ f.Unshadowed ∧
      (Scan.feed .html { enclosing := ["body"] } f.written).stack = ["body", "P", "b"] :=
  ⟨by decide +kernel, by decide +kernel,
    (feed_forest (by decide +kernel) rfl).2 (by decide +kernel)⟩

end MarkupCompletion
