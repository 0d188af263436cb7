import MarkupCompletion.Proofs.Markup.WrittenKeys
import MarkupCompletion.Proofs.Session.Opened

/-
  Which attributes are proposed for a tag that has some already.

  Between the attributes of a tag a session proposes what the schema has for the element,
  but for the attributes that are recorded in the tag (`complete_between`). Those are all
  whose names were written, except for a name after which only blanks were read, since a
  value may follow. So no attribute is proposed again but that one
  (`complete_omits_written_keys`), and that one is (`complete_repeats_bare_key`).
-/

namespace MarkupCompletion

/-- Whether a part is between the attributes of a tag. -/
def TagPart.IsBetween : TagPart → Prop
  | .gap | .slash | .afterKey _ => True
  | .name | .key _ | .beforeValue _ | .value .. => False

/-- The attributes that a schema has for an element. For the elements of a namespace it has
none. -/
def attributesFor (schema : Option Schema) (element : Text) : List Candidate :=
  match schema.map Schema.source with
  | some (.table d) => if hasNamespace element then [] else d.attributes (Text.lower element)
  | _ => []

theorem Library.proposeAttributes_table {schema : Option Schema} (h : IsTable schema) (l : Library)
    (element : Text) (existing : Attributes) :
    (l.proposeAttributes schema element existing .never).1 =
      some ((attributesFor schema element).filter fun a => !existing.has a.text) := by
  cases schema with
  | none => rfl
  | some s =>
    obtain ⟨d, hd⟩ := h s rfl
    rw [proposeAttributes_eq]
    cases hname : hasNamespace element with
    | true => simp [attributesFor, hd, hname, ask, Cancellation.answer]
    | false =>
      rw [Option.filter_some_pos (by rfl), ask_table hd]
      simp only [attributesFor, hd, hname, Option.map_some]
      rfl

theorem Scan.cursor_of_isBetween {s : Scan} {element : Text} {as : Attributes} {part : TagPart}
    (hs : s.place = .opening element as part) (hpart : part.IsBetween) :
    ∃ key, s.cursor = .attributeName element key as := by
  rw [cursor, hs]
  cases part with
  | gap => exact ⟨[], rfl⟩
  | slash => exact ⟨[], rfl⟩
  | afterKey k => exact ⟨k, rfl⟩
  | _ => cases hpart

namespace Session

variable {s : Session} {element : Text} {as : Attributes} {part : TagPart}

/-- Between attributes a table proposes those that are not recorded. -/
theorem complete_between (hs : s.scan.place = .opening element as part) (hpart : part.IsBetween)
    (hschema : IsTable s.schema.1) :
    (s.complete .never).1 =
      some ((attributesFor s.schema.1 element).filter fun a => !as.has a.text) := by
  obtain ⟨key, hcursor⟩ := Scan.cursor_of_isBetween hs hpart
  have hin : s.scan.place.inOpeningTag = true := by rw [hs]; rfl
  have hlist := Library.proposeAttributes_table hschema s.schema.2.library element as
  simp only [complete, cursor, hcursor, proposeAttributes, hin, Bool.not_true, Bool.false_eq_true,
    if_false, afterRequest]
  exact hlist

theorem IsOpened.scan_eq {r : Registry} {l : Library} {x : Settings} (h : IsOpened r l x s) :
    s.scan = Scan.feed x.parser.voids {} s.document.text := by
  rw [scan, h.document]
  exact Document.fresh_scan _

/-- **No attribute is proposed that was written, but for one that is held.** Over a registry
of tables, after any run of calls that leaves the cursor between the attributes of a tag,
the list is what the schema has for the element, in its order, without the attributes whose
names were written in the tag. Only a name that blanks alone follow may be among them: the
last one, and only where it was not written before. -/
theorem complete_omits_written_keys (r : Registry) (l : Library) (x : Settings)
    (hr : r.TableBacked) (calls : List Call) {element : Text} {as : Attributes} {part : TagPart}
    (hplace : ((new r l x).run calls).scan.place = .opening element as part)
    (hpart : part.IsBetween) :
    let s := (new r l x).run calls
    let keys := writtenKeys x.parser.voids s.document.text
    ∃ candidates, (s.complete .never).1 = some candidates ∧
      candidates =
        (attributesFor s.schema.1 element).filter (fun a => a.text ∉ part.settledKeys keys) ∧
      ∀ a ∈ candidates, a.text ∈ keys → part = .afterKey a.text ∧ a.text ∉ keys.dropLast := by
  intro s keys
  have hopened : IsOpened r l x s := new_isOpened.run hr calls
  have hscan := hopened.scan_eq
  rw [hscan] at hplace
  obtain ⟨hhas, hkeys⟩ := Attributes.has_iff_mem_settledKeys hplace
  have hcomplete := complete_between (s := s) (by rw [hscan]; exact hplace) hpart
    (hopened.isTable hr)
  have hfilter : (fun a : Candidate => !as.has a.text) =
      fun a => decide (a.text ∉ part.settledKeys keys) := by
    funext a
    rw [Bool.eq_iff_iff, Bool.not_eq_true', decide_eq_true_eq, ← hhas a.text, Bool.not_eq_true]
  rw [hfilter] at hcomplete
  refine ⟨_, hcomplete, rfl, ?_⟩
  intro a ha hwritten
  rw [List.mem_filter, decide_eq_true_eq] at ha
  obtain ⟨-, hnew⟩ := ha
  -- what was written and is not settled is held, and between attributes that is a bare name
  have hlast : part.heldKey? = some a.text := by
    have hmem : a.text ∈ part.settledKeys keys ++ part.heldKey?.toList := hkeys ▸ hwritten
    rcases List.mem_append.1 hmem with hsettled | hheld
    · exact absurd hsettled hnew
    · simpa using hheld
  cases part with
  | afterKey k =>
    cases hlast
    exact ⟨rfl, hnew⟩
  | gap => cases hlast
  | slash => cases hlast
  | _ => cases hpart

/-- A tag that goes over a `/`, a value with a blank in it and an attribute that is written
twice, the second time bare and with a blank after it. -/
theorem complete_omits_written_keys_among_repeated :
    let d : Definition :=
      { name := "note"
        globalAttributes := [{ name := "id" }, { name := "lang" }]
        elements := [{ name := "P", attributes := [{ name := "x" }, { name := "class" }] }] }
    let r := ((Registry.build [.ofDefinition d] (some "note")).toOption).getD {}
    let calls : List Call :=
      [.append "<q><p x", .complete .never, .edit "<p x/class='a b'id x >" 21]
    let s := (new r {} {}).run calls
    let keys := writtenKeys .html s.document.text
    let part : TagPart := .afterKey "x"
    r.TableBacked ∧
    s.scan.place = .opening "p" [("x", []), ("class", "a b"), ("id", [])] part ∧
    part.IsBetween ∧ keys = ["x", "class", "id", "x"] ∧
    (∃ candidates, (s.complete .never).1 = some candidates ∧
      candidates =
        (attributesFor s.schema.1 "p").filter (fun a => a.text ∉ part.settledKeys keys) ∧
      ∀ a ∈ candidates, a.text ∈ keys → part = .afterKey a.text ∧ a.text ∉ keys.dropLast) ∧
    (s.complete .never).1 = some [⟨"lang", .attributeName, []⟩] := by
  intro d r calls s keys part
  have hr : r.TableBacked := Registry.tableBacked_of_definitions [d] rfl
  have hplace : s.scan.place = .opening "p" [("x", []), ("class", "a b"), ("id", [])] part := by
    decide +kernel
  exact ⟨hr, hplace, trivial, by decide +kernel,
    complete_omits_written_keys r {} {} hr calls hplace trivial, by decide +kernel⟩

theorem complete_repeats_bare_key :
    let d : Definition :=
      { name := "s"
        elements := [{ name := "p", attributes := [{ name := "a" }, { name := "b" }] }] }
    let r := ((Registry.build [.ofDefinition d] (some "s")).toOption).getD {}
    let s := ((new r {} {}).edit "<p a " 5).1
    r.TableBacked ∧ s.scan.place = .opening "p" [] (.afterKey "a") ∧
    ¬ ∃ candidates, (s.complete .never).1 = some candidates ∧
      ∀ a ∈ candidates, a.text ∉ writtenKeys .html s.document.text := by
  intro d r s
  have hr : r.TableBacked := Registry.tableBacked_of_definitions [d] rfl
  have hlist : (s.complete .never).1 =
      some [⟨"a", .attributeName, []⟩, ⟨"b", .attributeName, []⟩] := by decide +kernel
  refine ⟨hr, by decide +kernel, ?_⟩
  intro ⟨candidates, hcandidates, hnone⟩
  rw [hlist] at hcandidates
  cases hcandidates
  exact hnone _ List.mem_cons_self (by decide +kernel)

end Session

end MarkupCompletion
