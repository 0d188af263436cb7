import Mathlib.Data.List.Basic
import MarkupCompletion.Schema.Library

/-
  Sources that are files.

  Whatever happens to a library, a slot holds what it held, or else the first definition that
  was read for it (`get?_handleAll`). The file is read each time the source of the slot is
  asked or read ahead, as it is then, and no longer once that has succeeded. So until then
  the source fails as the reading does, and from then on it answers from what was read
  (`file_source_reads_once`).
-/

namespace MarkupCompletion

/-- Whether a source has its slot from before, or is the one that has the slot `slot` and
reads the file at `path`. -/
def Source.Fits (slot : Nat) (path : Text) : Source → Prop
  | .file slot' path' => slot' < slot ∨ slot' = slot ∧ path' = path
  | .table _ | .provider _ => True

instance (slot : Nat) (path : Text) : (source : Source) → Decidable (source.Fits slot path)
  | .file slot' path' => inferInstanceAs (Decidable (slot' < slot ∨ slot' = slot ∧ path' = path))
  | .table _ | .provider _ => inferInstanceAs (Decidable True)

instance (slot : Nat) (path : Text) : (source : Source) → Decidable (source = .file slot path)
  | .file slot' path' => decidable_of_iff (slot' = slot ∧ path' = path) (by rw [Source.file.injEq])
  | .table _ | .provider _ => isFalse nofun

namespace Library

/-! ## What happens to a library -/

/-- What can happen to a library. -/
inductive Event where
  /-- its files are others from now on -/
  | change (files : Files)
  | ask (source : Source) (q : Query)
  | preload (source : Source)

/-- The source that an event is about. -/
def Event.source? : Event → Option Source
  | .change _ => none
  | .ask source _ | .preload source => some source

instance (e : Event) (slot : Nat) (path : Text) :
    Decidable (e.source? = some (.file slot path)) :=
  match e.source? with
  | none => isFalse nofun
  | some source => decidable_of_iff (source = .file slot path) (by rw [Option.some.injEq])

def Event.filesAfter (fs : Files) : Event → Files
  | .change files => files
  | .ask .. | .preload _ => fs

/-- The library after an event. -/
def handle (l : Library) : Event → Library
  | .change files => { l with files }
  | .ask source q => (l.answer source q).2
  | .preload source => (l.preload source).2

def handleAll (l : Library) (es : List Event) : Library := es.foldl handle l

/-- What comes of reading a file each time its source is asked or read ahead. -/
def readings (parse : Text → Except Text Definition) (slot : Nat) (path : Text) :
    Files → List Event → List (Except Failure Definition)
  | _, [] => []
  | fs, e :: es =>
    (if e.source? = some (.file slot path) then [fs.readDefinition path parse] else []) ++
      readings parse slot path (e.filesAfter fs) es

/-- Whether a source answers each query from a reading, a definition or a failure, and is
ready or fails by it. -/
def AnswersFrom (l : Library) (source : Source) (reading : Except Failure Definition) : Prop :=
  (∀ q, (l.answer source q).1 = some (reading.map fun d => d.answer q)) ∧
    (l.preload source).1 = reading.map fun _ => ()

/-- Whether only slots that were given out hold anything. -/
def Tidy (l : Library) : Prop := ∀ p ∈ l.loaded, p.1 < l.slots

variable {l : Library} {slot slot' : Nat} {path : Text} {d : Definition} {e : Event}
  {es : List Event}

/-! ## Slots -/

theorem get?_keep_of_ne (h : slot ≠ slot') : (l.keep slot' d).get? slot = l.get? slot := by
  simp only [keep, get?, List.lookup_cons, beq_false_of_ne h]

theorem Tidy.get?_eq_none (h : l.Tidy) (hslot : l.slots ≤ slot) : l.get? slot = none := by
  rw [get?, List.lookup_eq_none_iff]
  intro p hp
  have hlt := h p hp
  exact bne_iff_ne.2 (by omega)

theorem Tidy.keep (h : l.Tidy) (hslot : slot < l.slots) : (l.keep slot d).Tidy :=
  List.forall_mem_cons.2 ⟨hslot, h⟩

theorem Tidy.addSlot (h : l.Tidy) : l.addSlot.2.Tidy := fun p hp => Nat.lt_succ_of_lt (h p hp)

/-! ## Fetching -/

/-- Nothing is kept but a definition that was read for an empty slot. -/
theorem fetch_snd (l : Library) (slot : Nat) (path : Text) :
    (l.fetch slot path).2 = l ∨
      l.get? slot = none ∧ ∃ d, l.readDefinition path = .ok d ∧
        (l.fetch slot path).2 = l.keep slot d := by
  rw [fetch]
  cases l.get? slot with
  | some d => exact Or.inl rfl
  | none =>
    cases l.readDefinition path with
    | error e => exact Or.inl rfl
    | ok d => exact Or.inr ⟨rfl, d, rfl, rfl⟩

theorem get?_fetch (l : Library) (slot : Nat) (path : Text) :
    (l.fetch slot path).2.get? slot =
      (l.get? slot).or (l.readDefinition path).toOption := by
  rw [fetch]
  cases hslot : l.get? slot with
  | some d => exact hslot
  | none =>
    cases l.readDefinition path with
    | error e => exact hslot
    | ok d => exact get?_keep l slot d

theorem get?_fetch_of_ne (l : Library) (h : slot ≠ slot') (path : Text) :
    (l.fetch slot' path).2.get? slot = l.get? slot := by
  obtain hsame | ⟨-, d, -, hkeep⟩ := fetch_snd l slot' path
  · rw [hsame]
  · rw [hkeep, get?_keep_of_ne h]

theorem answersFrom_of_get? (h : l.get? slot = some d) :
    l.AnswersFrom (.file slot path) (.ok d) := by
  have hfetch := fetch_of_get? path h
  refine ⟨fun q => ?_, ?_⟩
  · simp only [answer, hfetch]
  · simp only [preload, hfetch]

theorem answersFrom_of_get?_none (h : l.get? slot = none) :
    l.AnswersFrom (.file slot path) (l.readDefinition path) := by
  have hfetch : (l.fetch slot path).1 = l.readDefinition path := by
    simp only [fetch, h]
    cases l.readDefinition path with
    | error e => rfl
    | ok d => rfl
  refine ⟨fun q => ?_, ?_⟩
  · simp only [answer, hfetch]
  · simp only [preload, hfetch]

/-! ## One event -/

/-- An event fetches what its source is read from, or changes nothing but files. -/
theorem handle_eq (l : Library) (e : Event) :
    (∃ slot path, e.source? = some (.file slot path) ∧ l.handle e = (l.fetch slot path).2) ∨
      (∀ slot path, e.source? ≠ some (.file slot path)) ∧
        l.handle e = { l with files := e.filesAfter l.files } := by
  cases e with
  | change files => exact Or.inr ⟨nofun, rfl⟩
  | ask source q =>
    cases source with
    | file slot path => exact Or.inl ⟨slot, path, rfl, rfl⟩
    | table _ | provider _ => exact Or.inr ⟨nofun, rfl⟩
  | preload source =>
    cases source with
    | file slot path => exact Or.inl ⟨slot, path, rfl, rfl⟩
    | table _ | provider _ => exact Or.inr ⟨nofun, rfl⟩

theorem fetch_kept (l : Library) (slot : Nat) (path : Text) :
    (l.fetch slot path).2.files = l.files ∧ (l.fetch slot path).2.parse = l.parse ∧
      (l.fetch slot path).2.slots = l.slots := by
  obtain h | ⟨-, d, -, h⟩ := fetch_snd l slot path
  · rw [h]
    exact ⟨rfl, rfl, rfl⟩
  · rw [h]
    exact ⟨rfl, rfl, rfl⟩

theorem handle_kept (l : Library) (e : Event) :
    (l.handle e).files = e.filesAfter l.files ∧ (l.handle e).parse = l.parse ∧
      (l.handle e).slots = l.slots := by
  obtain ⟨slot, path, he, h⟩ | ⟨-, h⟩ := handle_eq l e
  · obtain ⟨hfiles, hparse, hslots⟩ := l.fetch_kept slot path
    rw [h, hfiles]
    refine ⟨?_, hparse, hslots⟩
    cases e with
    | change files => cases he
    | ask source q => rfl
    | preload source => rfl
  · rw [h]
    exact ⟨rfl, rfl, rfl⟩

theorem Tidy.handle (h : l.Tidy) (he : ∀ source ∈ e.source?, source.Fits slot path)
    (hslot : slot < l.slots) : (l.handle e).Tidy := by
  obtain ⟨slot', path', hsource, heq⟩ | ⟨-, heq⟩ := handle_eq l e
  · obtain hsame | ⟨-, d, -, hkeep⟩ := fetch_snd l slot' path'
    · rw [heq, hsame]
      exact h
    · rw [heq, hkeep]
      apply h.keep
      rcases he _ hsource with hold | ⟨rfl, -⟩
      · exact Nat.lt_trans hold hslot
      · exact hslot
  · rw [heq]
    exact h

theorem get?_handle (l : Library) (he : ∀ source ∈ e.source?, source.Fits slot path) :
    (l.handle e).get? slot =
      (l.get? slot).or
        (if e.source? = some (.file slot path) then (l.readDefinition path).toOption
        else none) := by
  obtain ⟨slot', path', hsource, heq⟩ | ⟨hsource, heq⟩ := handle_eq l e
  · rw [heq]
    rcases he _ hsource with hold | ⟨rfl, rfl⟩
    · -- another slot, which was given out before
      have hother : e.source? ≠ some (.file slot path) := by
        rw [hsource]
        rintro ⟨⟩
        exact absurd hold (Nat.lt_irrefl _)
      rw [if_neg hother, Option.or_none, get?_fetch_of_ne l (Nat.ne_of_gt hold)]
    · rw [if_pos hsource, get?_fetch]
  · rw [heq, if_neg (hsource slot path), Option.or_none]
    rfl

/-! ## Any events -/

theorem handleAll_cons (l : Library) (e : Event) (es : List Event) :
    l.handleAll (e :: es) = (l.handle e).handleAll es := rfl

theorem handleAll_kept (l : Library) (es : List Event) :
    (l.handleAll es).files = es.foldl Event.filesAfter l.files ∧
      (l.handleAll es).parse = l.parse := by
  induction es generalizing l with
  | nil => exact ⟨rfl, rfl⟩
  | cons e es ih =>
    obtain ⟨hfiles, hparse, -⟩ := l.handle_kept e
    obtain ⟨hfiles', hparse'⟩ := ih (l.handle e)
    rw [handleAll_cons, List.foldl_cons, ← hfiles]
    exact ⟨hfiles', hparse'.trans hparse⟩

theorem Tidy.handleAll (h : l.Tidy) (hes : ∀ e ∈ es, ∀ source ∈ e.source?, source.Fits slot path)
    (hslot : slot < l.slots) : (l.handleAll es).Tidy := by
  induction es generalizing l with
  | nil => exact h
  | cons e es ih =>
    obtain ⟨he, hes⟩ := List.forall_mem_cons.1 hes
    rw [handleAll_cons]
    exact ih (h.handle he hslot) hes (by rw [(l.handle_kept e).2.2]; exact hslot)

/-- A slot holds what it held, or else the first definition that was read for it. -/
theorem get?_handleAll (l : Library)
    (hes : ∀ e ∈ es, ∀ source ∈ e.source?, source.Fits slot path) :
    (l.handleAll es).get? slot =
      (l.get? slot).or
        ((readings l.parse slot path l.files es).findSome? Except.toOption) := by
  induction es generalizing l with
  | nil =>
    rw [readings, List.findSome?_nil, Option.or_none]
    rfl
  | cons e es ih =>
    obtain ⟨he, hes⟩ := List.forall_mem_cons.1 hes
    obtain ⟨hfiles, hparse, -⟩ := l.handle_kept e
    rw [handleAll_cons, ih _ hes, get?_handle l he, hfiles, hparse, readings,
      List.findSome?_append, Option.or_assoc]
    split
    · rw [List.findSome?_singleton]
      rfl
    · rfl

/-- **A source reads its file with success once.** A source is given a new slot, in a library
where only slots that were given out hold anything, and then its files change and sources
are asked and read ahead, the new one among them. How a text is read as a definition, and what
is said of a text that is none, may be anything. As long as no reading of its file succeeds,
its slot is empty, and the source answers from what is in the file at that time: with the
failure, message and all, if that cannot be read. After the first reading that succeeds the slot
holds what was read and the source answers from it, whatever becomes of the file. A source that
is given its definition at the start answers from that. -/
theorem file_source_reads_once (l : Library) (hl : l.Tidy) (path : Text) (es : List Event)
    (hes : ∀ e ∈ es, ∀ source ∈ e.source?, source.Fits l.addSlot.1 path) :
    let slot := l.addSlot.1
    let source := Source.file slot path
    let now := l.addSlot.2.handleAll es
    let files := es.foldl Event.filesAfter l.files
    let readings := readings l.parse slot path l.files es
    now.Tidy ∧
    ((∀ r ∈ readings, ∃ failure, r = .error failure) →
      now.get? slot = none ∧ now.AnswersFrom source (files.readDefinition path l.parse)) ∧
    (∀ failed d later, readings = failed ++ .ok d :: later →
      (∀ r ∈ failed, ∃ failure, r = .error failure) →
        now.get? slot = some d ∧ now.AnswersFrom source (.ok d)) ∧
    (∀ d, let given := (l.addSlot.2.keep slot d).handleAll es
      given.get? slot = some d ∧ given.AnswersFrom source (.ok d)) := by
  intro slot source now files readings
  have hempty : l.addSlot.2.get? slot = none := hl.get?_eq_none (Nat.le_refl _)
  have hnow : now.get? slot = readings.findSome? Except.toOption := by
    rw [get?_handleAll l.addSlot.2 hes, hempty, Option.none_or]
    rfl
  have hreading : now.readDefinition path = files.readDefinition path l.parse := by
    obtain ⟨hfiles, hparse⟩ := l.addSlot.2.handleAll_kept es
    rw [readDefinition, hfiles, hparse]
    rfl
  have hnothing {rs : List (Except Failure Definition)}
      (h : ∀ r ∈ rs, ∃ failure, r = .error failure) : rs.findSome? Except.toOption = none := by
    rw [List.findSome?_eq_none_iff]
    intro r hr
    obtain ⟨failure, rfl⟩ := h r hr
    rfl
  refine ⟨hl.addSlot.handleAll hes (Nat.lt_succ_self _), ?_, ?_, ?_⟩
  · intro hfailed
    rw [hnothing hfailed] at hnow
    rw [← hreading]
    exact ⟨hnow, answersFrom_of_get?_none hnow⟩
  · intro failed d later hreadings hfailed
    rw [hreadings, List.findSome?_append, hnothing hfailed] at hnow
    exact ⟨hnow, answersFrom_of_get? hnow⟩
  · intro d given
    have hgiven : given.get? slot = some d := by
      rw [get?_handleAll _ hes, get?_keep, Option.some_or]
    exact ⟨hgiven, answersFrom_of_get? hgiven⟩

/-- A file that is missing, then no schema in one way and in another, then a schema and then
removed, while a source that was read before is asked too. What is said of the file is about
what is in it at that time. -/
theorem file_source_reads_once_among_changes :
    let old : Definition := { name := "old" }
    let d : Definition := { name := "s", elements := [{ name := "p" }] }
    let l : Library := { slots := 1, loaded := [(0, old)] }
    let file (content : Text) : Files := { entries := [(["s.toml"], .file (.text content))] }
    let source := Source.file 1 "s.toml"
    let early : List Event := [.preload source, .change (file "name = ["), .ask source .roots,
      .change (file "doctype = 's'")]
    let es := early ++ [.ask source .roots, .ask (.file 0 "old.toml") .roots,
      .change (file "name = 's'\n[[elements]]\nname = 'p'"), .ask source (.children "p"),
      .change {}, .preload source]
    let unclosed : Failure := .schemaFormat "s.toml" "TOML parse error in \"name = [\""
    let nameless : Failure := .schemaFormat "s.toml" "TOML parse error in \"doctype = 's'\""
    let failed : List (Except Failure Definition) :=
      [.error (.schemaMissing "s.toml"), .error unclosed, .error nameless]
    let before := l.addSlot.2.handleAll early
    let now := l.addSlot.2.handleAll es
    l.Tidy ∧ (∀ e ∈ es, ∀ source ∈ e.source?, source.Fits l.addSlot.1 "s.toml") ∧
    (∀ r ∈ failed, ∃ failure, r = .error failure) ∧
    readings l.parse 1 "s.toml" l.files early = failed.take 2 ∧
    before.get? 1 = none ∧ before.AnswersFrom source (.error nameless) ∧
    readings l.parse 1 "s.toml" l.files es =
      failed ++ .ok d :: [.error (.schemaMissing "s.toml")] ∧
    now.get? 1 = some d ∧ now.AnswersFrom source (.ok d) := by
  intro old d l file source early es unclosed nameless failed before now
  have hl : l.Tidy := List.forall_mem_singleton.2 Nat.one_pos
  have hes : ∀ e ∈ es, ∀ source ∈ e.source?, source.Fits l.addSlot.1 "s.toml" := by
    decide +kernel
  have hfailed : ∀ r ∈ failed, ∃ failure, r = .error failure := by
    simp only [failed, List.forall_mem_cons]
    exact ⟨⟨_, rfl⟩, ⟨_, rfl⟩, ⟨_, rfl⟩, nofun⟩
  have hearly : readings l.parse 1 "s.toml" l.files early = failed.take 2 := by decide +kernel
  have hall : readings l.parse 1 "s.toml" l.files es =
      failed ++ .ok d :: [.error (.schemaMissing "s.toml")] := by decide +kernel
  have hcontent : (early.foldl Event.filesAfter l.files).readDefinition "s.toml" l.parse =
      .error nameless := by decide +kernel
  obtain ⟨-, hempty, -, -⟩ := file_source_reads_once l hl "s.toml" early fun e he =>
    hes e (List.mem_append_left _ he)
  obtain ⟨-, -, hread, -⟩ := file_source_reads_once l hl "s.toml" es hes
  have hsofar : ∀ r ∈ readings l.parse l.addSlot.1 "s.toml" l.files early,
      ∃ failure, r = .error failure := by
    rw [show readings l.parse l.addSlot.1 "s.toml" l.files early = failed.take 2 from hearly]
    exact fun r hr => hfailed r (List.mem_of_mem_take hr)
  obtain ⟨hslot, hanswers⟩ := hempty hsofar
  rw [hcontent] at hanswers
  exact ⟨hl, hes, hfailed, hearly, hslot, hanswers, hall, hread failed d _ hall hfailed⟩

end Library

end MarkupCompletion
