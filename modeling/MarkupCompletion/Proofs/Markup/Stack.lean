import MarkupCompletion.Proofs.Markup.Outcome
import MarkupCompletion.Proofs.Markup.Sound
import MarkupCompletion.Proofs.Markup.Leads
import Mathlib.Data.List.TakeWhile
import Mathlib.Order.Bounds.Basic

/-
  The stack of open elements.

  Of all characters only a `>` moves the stack, and `StackStep` says by the kind
  of the place how: the end of an opening tag puts the name of the tag on top,
  the end of a closing tag cuts the stack at the last element of its name
  (`CutAtLast`), and everywhere else the stack is left alone (`step_stackStep`).
  So the stack holds names of elements and none of void ones
  (`Reachable.enclosing`), and a text in which no closing tag ends leaves all
  that was open open (`stack_isPrefix_feed`).
-/

namespace MarkupCompletion

/-- Whether `after` is what is left of a stack, outermost first, that is cut at
the last element of the name, or loses its last element if none has that name. -/
def CutAtLast (name : Text) (stack after : List Text) : Prop :=
  (∃ i, IsGreatest {i | ∃ e, stack[i]? = some e ∧ Text.sameAscii e name = true} i ∧
    after = stack.take i) ∨
  ((∀ e ∈ stack, Text.sameAscii e name = false) ∧ after = stack.dropLast)

/-- Whether a `>` at the place ends an opening tag that does not close itself. -/
def Place.EndsOpening (p : Place) : Prop :=
  p.kind ∈ [Place.Kind.name, .gap, .key, .afterKey, .beforeValue] ∨
    p.kind = .value ∧ p.quote? = none

/-- How the stack follows from the scan at which `c` was read. -/
structure StackStep (v : VoidElements) (s : Scan) (c : Char) (after : List Text) : Prop where
  other : c ≠ '>' → after = s.stack
  opening :
    c = '>' → s.place.EndsOpening →
      ∃ t, s.place.tag? = some t ∧
        after = if v.isVoid t.name then s.stack else s.stack ++ [t.name]
  closing :
    c = '>' → s.place.kind = .closing →
      ∃ t, s.place.tag? = some t ∧
        (t.name ≠ [] ∧ v.isVoid t.name = false ∧ s.stack ≠ [] →
          CutAtLast t.name s.stack after) ∧
        (t.name = [] ∨ v.isVoid t.name = true ∨ s.stack = [] → after = s.stack)
  elsewhere : c = '>' → ¬ s.place.EndsOpening → s.place.kind ≠ .closing → after = s.stack

/-! ## Closing the nearest element cuts the stack -/

theorem closeNearest_suffix (name : Text) (enclosing : List Text) :
    closeNearest name enclosing <:+ enclosing := by
  simp only [closeNearest]
  split
  · next outer heq =>
    have hdrop := List.dropWhile_suffix (l := enclosing) fun e => !Text.sameAscii e name
    rw [heq] at hdrop
    exact (List.suffix_cons _ outer).trans hdrop
  · exact List.tail_suffix enclosing

/-- An element, the elements inside it, and those around it: if none inside has the
name that it has, the stack is cut at it. -/
theorem cutAtLast_of_inside {name e : Text} {inside : List Text} (outer : List Text)
    (he : Text.sameAscii e name = true) (hin : ∀ n ∈ inside, Text.sameAscii n name = false) :
    CutAtLast name (outer ++ e :: inside) outer := by
  refine Or.inl ⟨outer.length, ⟨⟨e, ?_, he⟩, ?_⟩, ?_⟩
  · simp
  · rintro i ⟨n, hn, hname⟩
    by_contra hlt
    rw [not_le] at hlt
    obtain ⟨k, rfl⟩ : ∃ k, i = outer.length + (k + 1) := ⟨i - outer.length - 1, by omega⟩
    -- what stands behind the element is inside it
    rw [List.getElem?_append_right (by omega), Nat.add_sub_cancel_left, List.getElem?_cons_succ]
      at hn
    rw [hin n (List.mem_of_getElem? hn)] at hname
    exact Bool.noConfusion hname
  · simp

theorem closeNearest_cutAtLast (name : Text) (enclosing : List Text) :
    CutAtLast name enclosing.reverse (closeNearest name enclosing).reverse := by
  have hsplit := List.takeWhile_append_dropWhile
    (p := fun e => !Text.sameAscii e name) (l := enclosing)
  simp only [closeNearest]
  split
  · next e outer heq =>
    have he : Text.sameAscii e name = true := by
      have hhead := List.head_dropWhile_not (fun e => !Text.sameAscii e name)
        (l := enclosing) (by rw [heq]; exact List.cons_ne_nil e outer)
      simpa [heq] using hhead
    have hin : ∀ n ∈ (enclosing.takeWhile fun e => !Text.sameAscii e name).reverse,
        Text.sameAscii n name = false := by
      intro n hn
      simpa using List.mem_takeWhile_imp (List.mem_reverse.1 hn)
    have hcut := cutAtLast_of_inside outer.reverse he hin
    rw [heq] at hsplit
    rwa [← hsplit, List.reverse_append, List.reverse_cons, List.append_assoc,
      List.singleton_append]
  · next heq =>
    refine Or.inr ⟨?_, List.dropLast_reverse.symm⟩
    intro e he
    simpa using List.dropWhile_eq_nil_iff.1 heq e (List.mem_reverse.1 he)

/-! ## One character -/

/-- The places at which a `>` ends an opening tag, as they are built. -/
theorem Place.endsOpening_iff {p : Place} :
    p.EndsOpening ↔
      ∃ name as part, p = .opening name as part ∧ part ≠ .slash ∧ part.openQuote? = none := by
  constructor
  · intro h
    cases p with
    | opening name as part =>
      refine ⟨name, as, part, rfl, ?_, ?_⟩
      · rintro rfl
        simp [Place.EndsOpening, Place.kind, TagPart.kind] at h
      · cases part with
        | value k x quote =>
          simpa [Place.EndsOpening, Place.kind, TagPart.kind, Place.quote?] using h
        | _ => rfl
    | skipped kind tail =>
      cases kind <;> simp [Place.EndsOpening, Place.kind, Section.kind] at h
    | _ => simp [Place.EndsOpening, Place.kind] at h
  · rintro ⟨name, as, part, rfl, hslash, hquote⟩
    cases part with
    | slash => exact absurd rfl hslash
    | value k x quote => exact Or.inr ⟨rfl, congrArg (Option.map Quote.char) hquote⟩
    | _ => simp [Place.EndsOpening, Place.kind, TagPart.kind]

theorem Place.kind_eq_closing_iff {p : Place} :
    p.kind = .closing ↔ ∃ name ended, p = .closing name ended := by
  constructor
  · intro h
    cases p with
    | closing name ended => exact ⟨name, ended, rfl⟩
    | opening name as part => cases part <;> cases h
    | skipped kind tail => cases kind <;> cases h
    | _ => cases h
  · rintro ⟨name, ended, rfl⟩
    rfl

namespace Scan

variable {v : VoidElements} {s : Scan}

theorem stack_openElement (name : Text) :
    (s.openElement v name).stack = if v.isVoid name then s.stack else s.stack ++ [name] := by
  simp only [stack, openElement]
  split
  · rfl
  · exact List.reverse_cons

theorem stack_closeElement_of_skip {name : Text}
    (h : name = [] ∨ v.isVoid name = true ∨ s.stack = []) :
    (s.closeElement v name).stack = s.stack := by
  simp only [stack, closeElement]
  split
  · rfl
  · next hname =>
    simp only [Bool.or_eq_true, List.isEmpty_iff, not_or] at hname
    rcases h with h | h | h
    · exact absurd h hname.1
    · exact absurd h hname.2
    · rw [List.reverse_eq_nil_iff.1 h]
      rfl

theorem stack_closeElement {name : Text} (hne : name ≠ []) (hvoid : v.isVoid name = false) :
    (s.closeElement v name).stack = (closeNearest name s.enclosing).reverse := by
  simp only [stack, closeElement, hvoid, List.isEmpty_eq_false_iff.2 hne, Bool.or_self,
    Bool.false_eq_true, if_false]

variable {c : Char} {s' : Scan}

theorem Outcome.stack_eq (h : Outcome v s c s') (hopening : c = '>' → ¬ s.place.EndsOpening)
    (hclosing : c = '>' → s.place.kind ≠ .closing) : s'.stack = s.stack := by
  cases h with
  | moved p => rfl
  | opened name as part hgt hs hslash hquote =>
    exact absurd (Place.endsOpening_iff.2 ⟨name, as, part, hs, hslash, hquote⟩) (hopening hgt)
  | closed name ended hgt hs =>
    exact absurd (Place.kind_eq_closing_iff.2 ⟨name, ended, hs⟩) (hclosing hgt)
  | declaredBare keyword hgt => rfl
  | declared body hgt => rfl

/-- What a character does to the stack depends on the kind of the place. -/
theorem step_stackStep (v : VoidElements) (s : Scan) (c : Char) :
    StackStep v s c (s.step v c).stack where
  other hc :=
    (react_outcome v s c).stack_eq (fun hgt => absurd hgt hc) (fun hgt => absurd hgt hc)
  elsewhere _ hopening hclosing :=
    (react_outcome v s c).stack_eq (fun _ => hopening) (fun _ => hclosing)
  opening := by
    rintro rfl hplace
    obtain ⟨name, as, part, hs, hslash, hquote⟩ := Place.endsOpening_iff.1 hplace
    have hstack : (s.step v '>').stack = (s.react v '>').stack := rfl
    refine ⟨_, by rw [hs]; rfl, ?_⟩
    rw [hstack, react_opening_end hs hslash hquote]
    exact stack_openElement name
  closing := by
    rintro rfl hplace
    obtain ⟨name, ended, hs⟩ := Place.kind_eq_closing_iff.1 hplace
    have hstack : (s.step v '>').stack = (s.closeElement v name).stack := by
      rw [← react_closing_end hs]
      rfl
    refine ⟨_, by rw [hs]; rfl, ?_, ?_⟩
    · rintro ⟨hne, hvoid, -⟩
      rw [hstack, stack_closeElement hne hvoid]
      exact closeNearest_cutAtLast name s.enclosing
    · intro hskip
      rw [hstack]
      exact stack_closeElement_of_skip hskip

/-- Other than at the end of a closing tag, what was open stays open. -/
theorem Outcome.stack_isPrefix (h : Outcome v s c s')
    (hclosing : c = '>' → s.place.kind ≠ .closing) :
    s.stack <+: s'.stack := by
  cases h with
  | moved p => exact List.prefix_rfl
  | opened name as part =>
    rw [stack_openElement]
    split
    · exact List.prefix_rfl
    · exact List.prefix_append s.stack [name]
  | closed name ended hgt hs =>
    exact absurd (Place.kind_eq_closing_iff.2 ⟨name, ended, hs⟩) (hclosing hgt)
  | declaredBare keyword => exact List.prefix_rfl
  | declared body => exact List.prefix_rfl

/-! ## Runs -/

theorem Outcome.enclosing (h : Outcome v s c s') (hs : s.place.Sound)
    (hall : ∀ e ∈ s.enclosing, v.isVoid e = false ∧ IsElementName e) :
    ∀ e ∈ s'.enclosing, v.isVoid e = false ∧ IsElementName e := by
  cases h with
  | moved p => exact hall
  | opened name as part hgt hplace =>
    rw [hplace] at hs
    simp only [openElement]
    split
    · exact hall
    · next hvoid => exact List.forall_mem_cons.2 ⟨⟨by simpa using hvoid, hs.1⟩, hall⟩
  | closed name ended hgt hplace =>
    simp only [closeElement]
    split
    · exact hall
    · exact fun e he => hall e ((closeNearest_suffix name s.enclosing).subset he)
  | declaredBare keyword => exact hall
  | declared body => exact hall

theorem Reachable.enclosing (h : Reachable v s) :
    ∀ e ∈ s.enclosing, v.isVoid e = false ∧ IsElementName e := by
  induction h with
  | new => exact fun e he => absurd he List.not_mem_nil
  | @step s c hs ih => exact (react_outcome v s c).enclosing hs.sound ih
  | finish _ _ => exact fun e he => absurd he List.not_mem_nil

theorem stack_isPrefix_feed {t : Text}
    (h : ∀ p, p ++ ['>'] <+: t → (s.feed v p).place.kind ≠ .closing) :
    s.stack <+: (s.feed v t).stack := by
  induction t generalizing s with
  | nil => exact List.prefix_rfl
  | cons c t ih =>
    have hfirst : s.stack <+: (s.step v c).stack := by
      refine (react_outcome v s c).stack_isPrefix fun hgt => ?_
      subst hgt
      exact h [] (List.prefix_append ['>'] t)
    refine hfirst.trans (ih fun p hp => ?_)
    exact h (c :: p) (List.cons_prefix_cons.2 ⟨rfl, hp⟩)

/-- **Only a `>` moves the stack.** Whatever the void elements, one more character
moves the stack of a scan that can be reached as `StackStep` says. So the stack
holds nothing but names of elements that have content, and what is open stays open
up to the end of a closing tag. -/
theorem reachable_stack (h : Reachable v s) :
    (∀ (w : VoidElements) (c : Char), StackStep w s c (s.step w c).stack) ∧
    (∀ e ∈ s.stack, v.isVoid e = false ∧ IsElementName e) ∧
    (∀ (w : VoidElements) (t : Text),
      (∀ p, p ++ ['>'] <+: t → (s.feed w p).place.kind ≠ .closing) →
        s.stack <+: (s.feed w t).stack) :=
  ⟨fun w c => step_stackStep w s c, fun e he => h.enclosing e (List.mem_reverse.1 he),
    fun _ _ => stack_isPrefix_feed⟩

/-- In an end tag, with an element of its name around the innermost one. -/
theorem reachable_stack_in_end_tag :
    let s := feed .html {} "<!DOCTYPE html><ul><li/><br><LI a=1><b><i/ ></li"
    Reachable .html s ∧ s.place.kind = .closing ∧ s.stack = ["ul", "LI", "b", "i"] ∧
      StackStep .html s '>' (s.step .html '>').stack ∧ (s.step .html '>').stack = ["ul"] :=
  ⟨Reachable.new.feed _, by decide +kernel, by decide +kernel,
    (reachable_stack (Reachable.new.feed _)).1 _ _, by decide +kernel⟩

end Scan

end MarkupCompletion
