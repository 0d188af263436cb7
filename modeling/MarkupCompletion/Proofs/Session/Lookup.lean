import MarkupCompletion.Proofs.Session.Opened
import Mathlib.Data.List.DropRight

/-
  The schema in use is the one that was looked up first.

  A session is asked, edited, ended and given other registries in any order. Of
  what happens to it, only requests that need a schema look one up (`asks`), and
  only closing it and edits that change its doctype let go of it (`forgets`).
  `Session.moments` lists what happened, each event with the session it met. What
  the resolver holds can be read off that list (`handleAll_lookup`): it is what the
  first moment found that asked for a schema after the last one that let go of it,
  in the registry of that moment and for its doctype, which is the doctype still.
-/

namespace MarkupCompletion

/-- The schema of a document: the one registered for its public identifier, if
that is not empty, and else the default. -/
def Registry.schemaOf (r : Registry) (doctype : Option Doctype) : Option Schema :=
  (((doctype.bind Doctype.publicId).filter (· ≠ [])).bind r.get?) <|> r.default?

theorem Registry.select_eq_schemaOf (r : Registry) (doctype : Option Doctype) :
    r.select doctype = r.schemaOf doctype := by
  have hfpi : doctype.bind Doctype.fpi = (doctype.bind Doctype.publicId).filter (· ≠ []) := by
    cases doctype with
    | none => rfl
    | some d =>
      simp only [Option.bind_some, Doctype.fpi]
      congr 1
      funext t
      cases t <;> rfl
  rw [select, schemaOf, ← hfpi]
  cases doctype.bind Doctype.fpi with
  | none => rfl
  | some fpi => rfl

/-- Whether what may stand at a position depends on the schema. -/
def Cursor.needsSchema : Cursor → Bool
  | .text _ | .tagOpen _ | .attributeName .. | .attributeValue .. => true
  | .closingTag _ | .doctype | .comment | .cdata => false

theorem Scan.inOpeningTag_of_attributeName {s : Scan} {element key : Text}
    {existing : Attributes} (h : s.cursor = .attributeName element key existing) :
    s.place.inOpeningTag = true := by
  unfold Scan.cursor at h
  split at h <;> simp_all [Place.inOpeningTag]

theorem Scan.inOpeningTag_of_attributeValue {s : Scan} {element key value : Text}
    (h : s.cursor = .attributeValue element key value) : s.place.inOpeningTag = true := by
  unfold Scan.cursor at h
  split at h <;> simp_all [Place.inOpeningTag]

namespace Session

/-! ## Events -/

/-- What happens to a session. -/
inductive Event where
  | call (c : Call)
  /-- the end of the document is marked -/
  | finish
  /-- the registry is replaced -/
  | reload (r : Registry)

/-- The session after an event. -/
def handle (s : Session) : Event → Session
  | .call c => s.apply c
  | .finish => s.finish
  | .reload r => s.reload r

/-- The session after a run of events. -/
def handleAll (s : Session) (events : List Event) : Session := events.foldl handle s

/-- Whether an event needs the schema. Attributes and values need it inside an
opening tag only. That a request is cancelled makes no difference. -/
def asks (s : Session) : Event → Bool
  | .call .schema | .call (.elements _) => true
  | .call (.attributes ..) | .call (.values ..) => s.scan.place.inOpeningTag
  | .call (.complete _) => s.cursor.needsSchema
  | _ => false

/-- Whether an event lets go of the schema: the document is closed, or an edit leaves
it with another doctype. -/
def forgets (s : Session) : Event → Bool
  | .call .close => true
  | .call (.edit text cursor) => (s.edit text cursor).1.scan.doctype != s.scan.doctype
  | .call (.append chunk) => (s.append chunk).1.scan.doctype != s.scan.doctype
  | _ => false

/-! ## One event -/

theorem settled_cached (s : Session) :
    s.settled.resolver.cached =
      (s.resolver.cached <|> some (s.registry.schemaOf s.scan.doctype)) := by
  rw [← Registry.select_eq_schemaOf]
  obtain ⟨registry, library, extras, document, ⟨cached⟩⟩ := s
  cases cached <;> rfl

/-- The document is as it was, and so is the resolver unless a schema was asked for:
then it is settled. -/
structure SettledIf (asked : Bool) (s s' : Session) : Prop where
  document : s'.document = s.document
  resolver : s'.resolver = if asked then s.settled.resolver else s.resolver

namespace SettledIf

variable (s : Session)

theorem refl : SettledIf false s s := ⟨rfl, rfl⟩

theorem elements (c : Cancellation) : SettledIf true s (s.proposeElements c).2 := ⟨rfl, rfl⟩

theorem attributes (element : Text) (existing : Attributes) (c : Cancellation) :
    SettledIf s.scan.place.inOpeningTag s (s.proposeAttributes element existing c).2 := by
  unfold proposeAttributes
  cases s.scan.place.inOpeningTag with
  | true => exact ⟨rfl, rfl⟩
  | false => exact ⟨rfl, rfl⟩

theorem values (element key : Text) (c : Cancellation) :
    SettledIf s.scan.place.inOpeningTag s (s.proposeValues element key c).2 := by
  unfold proposeValues
  cases s.scan.place.inOpeningTag with
  | true => exact ⟨rfl, rfl⟩
  | false => exact ⟨rfl, rfl⟩

theorem complete (c : Cancellation) : SettledIf s.cursor.needsSchema s (s.complete c).2 := by
  unfold Session.complete
  cases h : s.cursor with
  | text parent => exact elements s c
  | tagOpen name => exact elements s c
  | attributeName element key existing =>
    have hplace := Scan.inOpeningTag_of_attributeName h
    have hsettled := attributes s element existing c
    rw [hplace] at hsettled
    exact hsettled
  | attributeValue element key value =>
    have hplace := Scan.inOpeningTag_of_attributeValue h
    have hsettled := values s element key c
    rw [hplace] at hsettled
    exact hsettled
  | closingTag name => exact refl s
  | doctype => exact refl s
  | comment => exact refl s
  | cdata => exact refl s

end SettledIf

/-- An edit lets go of the schema if and only if the doctype is another one after it. -/
theorem afterUpdate_resolver (s : Session) {d : Document} {u : Update}
    (hu : u.doctypeChanged = (d.scan.doctype != s.scan.doctype)) :
    (s.afterUpdate (d, u)).1.resolver =
      if (s.afterUpdate (d, u)).1.scan.doctype != s.scan.doctype then {} else s.resolver := by
  simp only [afterUpdate, hu]
  rfl

theorem edit_resolver (s : Session) (text : Text) (cursor : Nat) :
    (s.edit text cursor).1.resolver =
      if (s.edit text cursor).1.scan.doctype != s.scan.doctype then {} else s.resolver :=
  s.afterUpdate_resolver rfl

theorem append_resolver (s : Session) (chunk : Text) :
    (s.append chunk).1.resolver =
      if (s.append chunk).1.scan.doctype != s.scan.doctype then {} else s.resolver :=
  s.afterUpdate_resolver rfl

theorem handle_of_forgets {s : Session} {e : Event} (h : s.forgets e = true) :
    (s.handle e).resolver.cached = none := by
  unfold forgets at h
  split at h
  · rfl
  · next text cursor =>
    simp only [handle, apply, edit_resolver, h, if_pos]
  · next chunk =>
    simp only [handle, apply, append_resolver, h, if_pos]
  · cases h

/-- Another event leaves the doctype as it is, and settles the schema if it needs it. -/
theorem handle_of_not_forgets {s : Session} {e : Event} (h : s.forgets e = false) :
    (s.handle e).scan.doctype = s.scan.doctype ∧
      (s.handle e).resolver = if s.asks e then s.settled.resolver else s.resolver := by
  have settled {asked : Bool} {s' : Session} (hs : SettledIf asked s s') :
      s'.scan.doctype = s.scan.doctype ∧
        s'.resolver = if asked then s.settled.resolver else s.resolver :=
    ⟨by rw [scan, hs.document]; rfl, hs.resolver⟩
  have edited {s' : Session} (hsame : (s'.scan.doctype != s.scan.doctype) = false)
      (hs : s'.resolver = if s'.scan.doctype != s.scan.doctype then {} else s.resolver) :
      s'.scan.doctype = s.scan.doctype ∧ s'.resolver = s.resolver := by
    rw [hsame] at hs
    exact ⟨by simpa using hsame, hs⟩
  cases e with
  | finish => exact ⟨rfl, rfl⟩
  | reload r => exact settled ⟨rfl, rfl⟩
  | call c =>
    cases c with
    | edit text cursor => exact edited h (s.edit_resolver text cursor)
    | append chunk => exact edited h (s.append_resolver chunk)
    | close => cases h
    | schema => exact settled ⟨rfl, rfl⟩
    | elements c => exact settled (.elements s c)
    | attributes element existing c => exact settled (.attributes s element existing c)
    | values element key c => exact settled (.values s element key c)
    | doctypes c => exact settled (.refl s)
    | closing c => exact settled (.refl s)
    | complete c => exact settled (.complete s c)

theorem handle_cached_of_some {s : Session} {found : Option Schema}
    (h : s.resolver.cached = some found) (e : Event) :
    (s.handle e).resolver.cached = if s.forgets e then none else some found := by
  cases hforgets : s.forgets e with
  | true => exact handle_of_forgets hforgets
  | false =>
    rw [(handle_of_not_forgets hforgets).2]
    split
    · rw [settled_cached, h]
      rfl
    · exact h

/-- Where nothing is held, an event that needs a schema looks it up. -/
theorem handle_cached_of_none {s : Session} (h : s.resolver.cached = none) {e : Event}
    (hforgets : s.forgets e = false) :
    (s.handle e).resolver.cached =
      if s.asks e then some (s.registry.schemaOf s.scan.doctype) else none := by
  rw [(handle_of_not_forgets hforgets).2]
  split
  · rw [settled_cached, h]
    rfl
  · exact h

/-! ## Runs -/

/-- An event and the session that it met. -/
structure Moment where
  session : Session
  event : Event

namespace Moment

def asks (m : Moment) : Bool := m.session.asks m.event

/-- Whether the schema was let go of. -/
def forgets (m : Moment) : Bool := m.session.forgets m.event

/-- What a lookup found then. -/
def found (m : Moment) : Option Schema := m.session.registry.schemaOf m.session.scan.doctype

/-- Of moments in order, the first one that needed a schema after the last one that
let go of it. -/
def firstAsked (ms : List Moment) : Option Moment :=
  (ms.rtakeWhile fun m => !m.forgets).find? asks

theorem firstAsked_concat_of_forgets (ms : List Moment) {m : Moment} (h : m.forgets = true) :
    firstAsked (ms ++ [m]) = none := by
  rw [firstAsked, List.rtakeWhile_concat_neg _ _ _ (by simp [h])]
  rfl

theorem firstAsked_concat (ms : List Moment) {m : Moment} (h : m.forgets = false) :
    firstAsked (ms ++ [m]) = (firstAsked ms <|> if m.asks then some m else none) := by
  rw [firstAsked, List.rtakeWhile_concat_pos _ _ _ (by simp [h]), List.find?_append]
  cases hasks : m.asks <;> simp [firstAsked, hasks]

end Moment

/-- The moments of a run of events. -/
def moments (s : Session) : List Event → List Moment
  | [] => []
  | e :: events => ⟨s, e⟩ :: (s.handle e).moments events

theorem moments_concat (s : Session) (events : List Event) (e : Event) :
    s.moments (events ++ [e]) = s.moments events ++ [⟨s.handleAll events, e⟩] := by
  induction events generalizing s with
  | nil => rfl
  | cons first events ih => exact congrArg (_ :: ·) (ih (s.handle first))

theorem handleAll_concat (s : Session) (events : List Event) (e : Event) :
    s.handleAll (events ++ [e]) = (s.handleAll events).handle e := List.foldl_concat ..

/-- The resolver holds what was found at the first moment that needed a schema, if
there is one, and the doctype is what it was then. -/
structure HoldsFirst (s : Session) (ms : List Moment) : Prop where
  cached : s.resolver.cached = (Moment.firstAsked ms).map Moment.found
  doctype : ∀ m ∈ Moment.firstAsked ms, m.session.scan.doctype = s.scan.doctype

theorem HoldsFirst.handle {s : Session} {ms : List Moment} (h : HoldsFirst s ms) (e : Event) :
    HoldsFirst (s.handle e) (ms ++ [⟨s, e⟩]) := by
  cases hforgets : s.forgets e with
  | true =>
    have hfirst := Moment.firstAsked_concat_of_forgets ms (m := ⟨s, e⟩) hforgets
    constructor
    · rw [hfirst, handle_of_forgets hforgets]
      rfl
    · simp [hfirst]
  | false =>
    have hfirst := Moment.firstAsked_concat ms (m := ⟨s, e⟩) hforgets
    have hdoctype := (handle_of_not_forgets hforgets).1
    have hcached := h.cached
    cases hheld : Moment.firstAsked ms with
    | some m =>
      -- a schema is in use, so what the event needs does not matter
      have hsame : m.session.scan.doctype = s.scan.doctype := h.doctype m hheld
      rw [hheld] at hcached hfirst
      change Moment.firstAsked _ = some m at hfirst
      constructor
      · rw [hfirst, handle_cached_of_some hcached, hforgets]
        rfl
      · rw [hfirst, hdoctype]
        rintro m' ⟨⟩
        exact hsame
    | none =>
      rw [hheld] at hcached hfirst
      change Moment.firstAsked _ = if s.asks e then some ⟨s, e⟩ else none at hfirst
      constructor
      · rw [hfirst, handle_cached_of_none hcached hforgets]
        split <;> rfl
      · rw [hfirst, hdoctype]
        intro m hm
        split at hm
        · cases hm
          rfl
        · cases hm

theorem new_handleAll (r : Registry) (l : Library) (x : Settings) (events : List Event) :
    HoldsFirst ((new r l x).handleAll events) ((new r l x).moments events) := by
  induction events using List.reverseRecOn with
  | nil => exact ⟨rfl, by rintro m ⟨⟩⟩
  | append_singleton events e ih =>
    rw [handleAll_concat, moments_concat]
    exact ih.handle e

/-- **The schema in use is the one that was looked up first.** After any run of events
on a new session, what the resolver holds is what was found when a schema was first
needed since the last moment that let go of one, and the doctype that it was found
for is the doctype still. It is let go of when the document is closed and by an edit
after which the doctype is another one, and stays what it is through all other
events. -/
theorem handleAll_lookup (r : Registry) (l : Library) (x : Settings) (events : List Event) :
    let s := (new r l x).handleAll events
    let first := Moment.firstAsked ((new r l x).moments events)
    s.resolver.cached = first.map Moment.found ∧
    (∀ m ∈ first, m.session.scan.doctype = s.scan.doctype) ∧
    (∀ e found, s.resolver.cached = some found →
      (s.handle e).resolver.cached = if s.forgets e then none else some found) := by
  intro s first
  obtain ⟨hcached, hdoctype⟩ := new_handleAll r l x events
  exact ⟨hcached, hdoctype, fun e _ hfound => handle_cached_of_some hfound e⟩

/-- A registry that a cancelled completion asked stays the one that counts when it is
replaced, until the doctype is deleted. -/
theorem handleAll_lookup_across_reload :
    let memo : Schema := .ofDefinition { name := "memo", fpi := some "m" }
    let r : Registry := { schemas := [memo], byFpi := [("m", 0)] }
    let events : List Event :=
      [.call (.append "<!DOCTYPE a PUBLIC \"m\">"), .call (.complete .before), .reload {},
        .call (.append "<b>"), .finish, .call .schema]
    let s := (new r {} {}).handleAll events
    s.resolver.cached = some (some memo) ∧ s.registry = {} ∧
    (s.handle (.call (.append "</b>"))).resolver.cached = some (some memo) ∧
    (s.handle (.call (.edit "<b>" 3))).resolver.cached = none := by
  intro memo r events s
  have hheld : ∀ e found, s.resolver.cached = some found →
      (s.handle e).resolver.cached = if s.forgets e then none else some found :=
    (handleAll_lookup r {} {} events).2.2
  have hmemo : s.resolver.cached = some (some memo) := by with_unfolding_all rfl
  have hkept : s.forgets (.call (.append "</b>")) = false := by decide +kernel
  have hgone : s.forgets (.call (.edit "<b>" 3)) = true := by decide +kernel
  refine ⟨hmemo, by rfl, ?_, ?_⟩
  · rw [hheld _ _ hmemo, hkept]
    rfl
  · rw [hheld _ _ hmemo, hgone]
    rfl

end Session

end MarkupCompletion
