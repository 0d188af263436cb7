import MarkupCompletion.Proofs.Completion.Spellings
import MarkupCompletion.Proofs.Markup.Nesting
import MarkupCompletion.Proofs.Markup.Stack
import MarkupCompletion.Completion.Proposal

/-
  What the proposed closing tags close.

  Of the open elements whose names are equal up to ASCII case the innermost is proposed
  (`closingCandidates_split`), and the closing tag of a candidate closes that element and all
  inside it (`feed_closing`). The names of open elements are names that a closing tag can
  have, so this holds of every scan that can be reached (`closing_candidates_close`).
-/

namespace MarkupCompletion

variable {v : VoidElements} {s : Scan} {name : Text} {inner outer enclosing : List Text}

/-- A closing tag as a candidate of its name completes it. -/
def closingTag (name : Text) : Text := '<' :: '/' :: name ++ ['>']

/-- What is closed with the innermost element of a name is that element and all inside. -/
theorem closeNearest_innermost (h : ∀ e ∈ inner, Text.sameAscii e name = false) :
    closeNearest name (inner ++ name :: outer) = outer := by
  have hopen : ∃ e ∈ inner ++ [name], Text.sameAscii e name = true :=
    ⟨name, List.mem_append_right inner List.mem_cons_self, Text.sameAscii_refl name⟩
  calc closeNearest name (inner ++ name :: outer)
      = closeNearest name ((inner ++ [name]) ++ outer) := by rw [List.append_assoc]; rfl
    _ = closeNearest name (inner ++ [name]) ++ outer := closeNearest_append hopen outer
    _ = outer := by rw [closeNearest_self h, List.nil_append]

/-- A closing tag with the name of an open element closes the innermost of that name. -/
theorem Scan.feed_closing (hs : s.place = .text) (hsplit : s.enclosing = inner ++ name :: outer)
    (hinner : ∀ e ∈ inner, Text.sameAscii e name = false) (hname : IsElementName name)
    (hvoid : v.isVoid name = false) :
    s.feed v (closingTag name) =
      { s with
        enclosing := outer
        consumed := s.consumed + Text.size (closingTag name) } := by
  let tag : EndTag := ⟨[], name, []⟩
  have hwritten : tag.written = closingTag name := by
    simp [tag, EndTag.written, closingTag]
  have hends : tag.Ends name :=
    ⟨fun c hc => absurd hc List.not_mem_nil, Text.sameAscii_refl name,
      fun c hc => absurd hc List.not_mem_nil⟩
  rw [← hwritten, EndTag.closes hends hname hvoid hs, hsplit, closeNearest_innermost hinner]

/-! ## Candidates -/

theorem closingCandidates_eq_nil_iff : closingCandidates enclosing = [] ↔ enclosing = [] := by
  rw [closingCandidates, List.map_eq_nil_iff]
  constructor
  · intro hnil
    rw [List.eq_nil_iff_forall_not_mem]
    intro e he
    obtain ⟨b, hb, -⟩ := exists_mem_firstSpellings id he
    rw [hnil] at hb
    cases hb
  · rintro rfl
    rfl

/-- The candidates before a candidate are those of the elements inside the innermost one of
its name. -/
theorem closingCandidates_split {before after : List Candidate} {c : Candidate}
    (h : closingCandidates enclosing = before ++ c :: after) :
    c.category = .closingTag ∧ c.description = [] ∧
    ∃ inner outer, enclosing = inner ++ c.text :: outer ∧ closingCandidates inner = before ∧
      ∀ e ∈ inner, Text.sameAscii e c.text = false := by
  obtain ⟨names, rest, hnames, rfl, hrest⟩ := List.map_eq_append_iff.1 h
  obtain ⟨name, names', rfl, rfl, rfl⟩ := List.map_eq_cons_iff.1 hrest
  obtain ⟨inner, outer, hsplit, hinner, hbefore⟩ := firstSpellings_split hnames
  refine ⟨rfl, rfl, inner, outer, hsplit, ?_, hbefore⟩
  rw [closingCandidates, hinner]

/-- **Closing tags close what they name.** In the text of a scan that can be reached, one
closing tag is proposed for each name of an open element, up to ASCII case. It is spelled as
the innermost element of the name and comes after those of the elements inside that one. Its
closing tag closes this element and the elements inside it, leads back to text and does
nothing else, so that of the first candidate closes the innermost element alone. -/
theorem closing_candidates_close (h : Scan.Reachable v s) (hs : s.place = .text) :
    ∃ candidates, proposeClosing s.enclosing .never = some candidates ∧
      candidates.Pairwise (fun a b => Text.sameAscii a.text b.text = false) ∧
      (∀ e ∈ s.enclosing, ∃ c ∈ candidates, Text.sameAscii c.text e = true) ∧
      ∀ before c after, candidates = before ++ c :: after →
        c.category = .closingTag ∧ c.description = [] ∧
        ∃ inner outer, s.enclosing = inner ++ c.text :: outer ∧
          (∀ e ∈ inner, Text.sameAscii e c.text = false) ∧
          closingCandidates inner = before ∧ (before = [] → inner = []) ∧
          s.feed v (closingTag c.text) =
            { s with
              enclosing := outer
              consumed := s.consumed + Text.size (closingTag c.text) } := by
  refine ⟨closingCandidates s.enclosing, rfl, ?_, ?_, ?_⟩
  · exact List.pairwise_map.2 firstSpellings_pairwise
  · intro e he
    obtain ⟨b, hb, hsame⟩ := exists_mem_firstSpellings id he
    exact ⟨⟨b, .closingTag, []⟩, List.mem_map_of_mem hb, hsame⟩
  · intro before c after hsplit
    obtain ⟨hcategory, hdescription, inner, outer, henclosing, hbefore, hinner⟩ :=
      closingCandidates_split hsplit
    refine ⟨hcategory, hdescription, inner, outer, henclosing, hinner, hbefore, ?_, ?_⟩
    · intro hfirst
      exact closingCandidates_eq_nil_iff.1 (hbefore.trans hfirst)
    · have hmem : c.text ∈ s.enclosing := by
        rw [henclosing]
        exact List.mem_append_right inner List.mem_cons_self
      obtain ⟨hvoid, hname⟩ := h.enclosing c.text hmem
      exact Scan.feed_closing hs henclosing hinner hname hvoid

theorem closing_candidates_close_of_nested :
    let s := Scan.feed .html {} "<UL>x<b><br><ul><B title='>'>"
    Scan.Reachable .html s ∧ s.place = .text ∧ s.stack = ["UL", "b", "ul", "B"] ∧
    proposeClosing s.enclosing .never = some [⟨"B", .closingTag, []⟩, ⟨"ul", .closingTag, []⟩] ∧
    ∃ inner outer, s.enclosing = inner ++ "ul".toList :: outer ∧
      (s.feed .html (closingTag "ul")).enclosing = outer ∧
      closingCandidates inner = [⟨"B", .closingTag, []⟩] := by
  intro s
  have hreach : Scan.Reachable .html s := Scan.Reachable.new.feed _
  have htext : s.place = .text := by decide +kernel
  have hlist : proposeClosing s.enclosing .never =
      some [⟨"B", .closingTag, []⟩, ⟨"ul", .closingTag, []⟩] := by decide +kernel
  refine ⟨hreach, htext, by decide +kernel, hlist, ?_⟩
  obtain ⟨candidates, hcandidates, -, -, hclose⟩ := closing_candidates_close hreach htext
  rw [hlist] at hcandidates
  obtain ⟨-, -, inner, outer, hsplit, -, hbefore, -, hfeed⟩ :=
    hclose [⟨"B", .closingTag, []⟩] ⟨"ul", .closingTag, []⟩ [] (Option.some.inj hcandidates).symm
  exact ⟨inner, outer, hsplit, congrArg Scan.enclosing hfeed, hbefore⟩

end MarkupCompletion
