import MarkupCompletion.Toml.Assembly
import Mathlib.Data.List.Nodup

/-
  Tables assembled from the statements that list their entries.

  A path leads to a table if a change at its end changes that table and leaves what stands
  around it (`LeadsTo`); a table that a header has just started is such a one. Pairs whose keys
  are new then add their entries to it in order (`foldlM_pairs`). From this follows what a
  section, and what an array of tables adds to the entries of a document, whatever table was
  started before (`Adds`, `adds_table`, `adds_items`).
-/

namespace MarkupCompletion

namespace Toml

/-! ## Entries with a new key -/

namespace Entries

def keys (es : Entries) : List Text := es.map Prod.fst

variable {es : Entries} {key : Text} (h : key ∉ es.keys)

include h

theorem get?_of_not_mem : es.get? key = none := by
  refine List.lookup_eq_none_iff.mpr fun p hp => bne_iff_ne.mpr ?_
  rintro rfl
  exact h (List.mem_map_of_mem hp)

theorem get?_concat (v : Value) : get? (es ++ [(key, v)]) key = some v := by
  have hnone : es.lookup key = none := get?_of_not_mem h
  rw [get?, List.lookup_append, hnone, Option.none_or, List.lookup_cons_self]

theorem put_of_not_mem (v : Value) : es.put key v = es ++ [(key, v)] := by
  induction es with
  | nil => rfl
  | cons e es ih =>
    obtain ⟨hne, hes⟩ := List.ne_and_not_mem_of_not_mem_cons h
    rw [put, if_neg hne.symm, ih hes, List.cons_append]

theorem put_concat (v w : Value) : put (es ++ [(key, v)]) key w = es ++ [(key, w)] := by
  induction es with
  | nil => rw [List.nil_append, put, if_pos rfl, List.nil_append]
  | cons e es ih =>
    obtain ⟨hne, hes⟩ := List.ne_and_not_mem_of_not_mem_cons h
    rw [List.cons_append, put, if_neg hne.symm, ih hes, List.cons_append]

end Entries

/-! ## Tables in their place -/

theorem change_append (f : Origin → Entries → Option Entries) (p q : List (Bool × Text))
    (origin : Origin) (es : Entries) :
    change f (p ++ q) origin es = change (change f q) p origin es := by
  induction p generalizing origin es with
  | nil => rfl
  | cons step p ih =>
    obtain ⟨isDotted, key⟩ := step
    simp only [List.cons_append, change, ih]

/-- Whether a path leads to a table that a header started: `place es` are the entries of the
document in which that table has the entries `es`. -/
def LeadsTo (path : List Text) (place : Entries → Entries) : Prop :=
  ∀ (f : Origin → Entries → Option Entries) (origin : Origin) (es : Entries),
    change f (path.map (false, ·)) origin (place es) = (f .header es).map place

theorem leadsTo_concat {es : Entries} {key : Text} (h : key ∉ es.keys) :
    LeadsTo [key] fun sub => es ++ [(key, .table .header sub)] := by
  intro f origin sub
  simp [change, Entries.get?_concat h, Entries.put_concat h]

/-- In a table that a path leads to, a key leads to the last table of its array. -/
theorem LeadsTo.concat_array {path : List Text} {place : Entries → Entries}
    (hplace : LeadsTo path place) {es : Entries} {key : Text} (h : key ∉ es.keys)
    (items : List Value) :
    LeadsTo (path ++ [key])
      fun sub => place (es ++ [(key, .array true (items ++ [.table .header sub]))]) := by
  intro f origin sub
  rw [List.map_append, change_append, hplace]
  simp only [List.map_singleton, change, Entries.get?_concat h, List.getLast?_concat,
    List.dropLast_concat, Option.map_map]
  congr 1
  funext sub
  simp only [Function.comp_apply, Entries.put_concat h]

theorem add_pair {path : List Text} {place : Entries → Entries} (hplace : LeadsTo path place)
    {es : Entries} {key : Text} (h : key ∉ es.keys) (v : Value) :
    Assembly.add ⟨path, place es⟩ (.pair [key] v) = some ⟨path, place (es ++ [(key, v)])⟩ := by
  have hset : setNew false key v .header es = some (es ++ [(key, v)]) := by
    simp only [setNew, Entries.get?_of_not_mem h, Entries.put_of_not_mem h]
    rfl
  have hpath : setPath path [key] v .header (place es) =
      change (setNew false key v) (path.map (false, ·) ++ []) .header (place es) := rfl
  rw [Assembly.add, hpath, List.append_nil, hplace, hset, Option.map_some, Option.map_some]

/-- The statements that set the entries of a table. -/
def pairs (es : Entries) : List Statement := es.map fun e => .pair [e.1] e.2

theorem foldlM_pairs {path : List Text} {place : Entries → Entries} (hplace : LeadsTo path place)
    (es : Entries) {more : Entries} (h : (Entries.keys (es ++ more)).Nodup) :
    (pairs more).foldlM Assembly.add ⟨path, place es⟩ = some ⟨path, place (es ++ more)⟩ := by
  induction more generalizing es with
  | nil => rw [List.append_nil]; rfl
  | cons e more ih =>
    rw [List.append_cons] at h ⊢
    have hnew : e.1 ∉ es.keys := by
      rw [Entries.keys, List.map_append, List.map_append, List.append_assoc,
        List.nodup_append] at h
      exact fun hmem => h.2.2 e.1 hmem e.1 (by simp) rfl
    rw [pairs, List.map_cons, List.foldlM_cons, add_pair hplace hnew]
    exact ih (es ++ [e]) h

/-! ## Sections -/

/-- Whether statements take the entries of a document to others, whatever table was last
started. -/
def Adds (ss : List Statement) (es es' : Entries) : Prop :=
  ∀ path, ∃ path', ss.foldlM Assembly.add ⟨path, es⟩ = some ⟨path', es'⟩

theorem Adds.nil (es : Entries) : Adds [] es es := fun path => ⟨path, rfl⟩

theorem Adds.append {ss ss' : List Statement} {es es' es'' : Entries} (h : Adds ss es es')
    (h' : Adds ss' es' es'') : Adds (ss ++ ss') es es'' := by
  intro path
  obtain ⟨path', hfirst⟩ := h path
  obtain ⟨path'', hthen⟩ := h' path'
  exact ⟨path'', by rw [List.foldlM_append, hfirst]; exact hthen⟩

theorem assemble_of_adds {ss : List Statement} {es : Entries} (h : Adds ss [] es) :
    assemble ss = some es := by
  obtain ⟨path, hfold⟩ := h []
  have hstart : ss.foldlM Assembly.add {} = some ⟨path, es⟩ := hfold
  rw [assemble, hstart, Option.map_some]

def tableStatements (key : Text) (es : Entries) : List Statement := .header [key] :: pairs es

theorem adds_table {es table : Entries} {key : Text} (h : key ∉ es.keys)
    (htable : table.keys.Nodup) :
    Adds (tableStatements key table) es (es ++ [(key, .table .header table)]) := by
  intro path
  have hstart : Assembly.add ⟨path, es⟩ (.header [key]) =
      some ⟨[key], es ++ [(key, .table .header [])]⟩ := by
    simp [Assembly.add, change, startTable, Entries.get?_of_not_mem h, Entries.put_of_not_mem h]
  refine ⟨[key], ?_⟩
  rw [tableStatements, List.foldlM_cons, hstart]
  exact foldlM_pairs (leadsTo_concat h) [] htable

/-! ## Arrays of tables -/

/-- The statements of a further table in an array. -/
def itemStatements (path : List Text) (es : Entries) : List Statement :=
  .arrayHeader path :: pairs es

/-- The entry of an array; there is none before its first table. -/
def arrayEntry (key : Text) (items : List Value) : Entries :=
  if items.isEmpty then [] else [(key, .array true items)]

theorem startItem_append {es : Entries} {key : Text} (h : key ∉ es.keys) (items : List Value)
    (origin : Origin) : startItem key origin (es ++ arrayEntry key items) =
      some (es ++ [(key, .array true (items ++ [.table .header []]))]) := by
  cases items with
  | nil => simp [startItem, arrayEntry, Entries.get?_of_not_mem h, Entries.put_of_not_mem h]
  | cons v items => simp [startItem, arrayEntry, Entries.get?_concat h, Entries.put_concat h]

section Arrays

variable {path : List Text} {place : Entries → Entries} (hplace : LeadsTo path place)
variable {es : Entries} {key : Text} (h : key ∉ es.keys)

include hplace h

theorem adds_item (items : List Value) {table : Entries} (htable : table.keys.Nodup) :
    Adds (itemStatements (path ++ [key]) table) (place (es ++ arrayEntry key items))
      (place (es ++ arrayEntry key (items ++ [.table .header table]))) := by
  intro before
  have hstart : Assembly.add ⟨before, place (es ++ arrayEntry key items)⟩
      (.arrayHeader (path ++ [key])) =
      some ⟨path ++ [key], place (es ++ [(key, .array true (items ++ [.table .header []]))])⟩ := by
    simp only [Assembly.add, List.getLast?_concat, List.dropLast_concat, Option.bind_eq_bind,
      Option.bind_some]
    rw [hplace, startItem_append h]
    rfl
  have hentry (sub : Entries) : arrayEntry key (items ++ [.table .header sub]) =
      [(key, .array true (items ++ [.table .header sub]))] := by
    simp [arrayEntry]
  refine ⟨path ++ [key], ?_⟩
  rw [itemStatements, List.foldlM_cons, hstart, hentry]
  exact foldlM_pairs (hplace.concat_array h items) [] htable

theorem adds_items (items : List Value) (tables : List Entries)
    (htables : ∀ table ∈ tables, table.keys.Nodup) :
    Adds (tables.flatMap (itemStatements (path ++ [key]))) (place (es ++ arrayEntry key items))
      (place (es ++ arrayEntry key (items ++ tables.map (.table .header)))) := by
  induction tables generalizing items with
  | nil =>
    rw [List.map_nil, List.append_nil]
    exact Adds.nil _
  | cons table tables ih =>
    obtain ⟨htable, hrest⟩ := List.forall_mem_cons.mp htables
    have hthen := ih (items ++ [.table .header table]) hrest
    rw [List.append_assoc, List.singleton_append] at hthen
    rw [List.flatMap_cons, List.map_cons]
    exact (adds_item hplace h items htable).append hthen

end Arrays

end Toml

end MarkupCompletion
