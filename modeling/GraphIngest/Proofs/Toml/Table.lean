import GraphIngest.Toml.Reader
import Mathlib.Data.List.Nodup

/-!
# Names in a table

However the pieces of a document define its table, no name in it stands for two things.

## Main definitions

* `TomlEntries.Distinct`: whether no name stands for two things.
* `TomlState.Sound`: what each statement keeps.
* `Toml.distinct_of_read?`: the names of a document are distinct.
-/

namespace GraphIngest

namespace TomlEntries

variable {α : Type} {es es' : TomlEntries} {name : String}

/-- Whether no name stands for two things. -/
def Distinct (es : TomlEntries) : Prop := (es.map (·.1)).Nodup

theorem distinct_nil : Distinct [] := List.nodup_nil

theorem distinct_cons {e : String × TomlItem} :
    Distinct (e :: es) ↔ e.1 ∉ es.map (·.1) ∧ es.Distinct := List.nodup_cons

theorem lookup_eq_none_iff : es.lookup name = none ↔ name ∉ es.map (·.1) := by
  simp only [List.lookup_eq_none_iff, bne_iff_ne, List.mem_map, not_exists, not_and]
  exact forall₂_congr fun e _ => ne_comm

namespace Distinct

theorem append (distinct : es.Distinct) (new : es.lookup name = none) (item : TomlItem) :
    Distinct (es ++ [(name, item)]) := by
  rw [Distinct, List.map_append, List.nodup_append]
  refine ⟨distinct, by simp, fun n among m last => ?_⟩
  rintro rfl
  obtain rfl : n = name := by simpa using last
  exact lookup_eq_none_iff.mp new among

theorem replace (distinct : es.Distinct) (name : String) (item : TomlItem) :
    Distinct (es.replace name item) := by
  have names : (es.replace name item).map (·.1) = es.map (·.1) := by
    rw [TomlEntries.replace, List.map_map]
    refine List.map_congr_left fun e _ => ?_
    by_cases same : e.1 = name <;> simp [same]
  rwa [Distinct, names]

theorem filter (distinct : es.Distinct) (keep : String × TomlItem → Bool) :
    Distinct (es.filter keep) :=
  List.Nodup.sublist (List.filter_sublist.map _) distinct

/-- A change at the end of a path keeps the names distinct if it does so in the table itself; on any
longer path one name is new, or one item is put in the place of another. -/
theorem modify? {dotted : Bool} {change : TableKind → TomlEntries → Option (TomlEntries × α)}
    {path : List String} {kind : TableKind} {a : α} (distinct : es.Distinct)
    (keeps : ∀ es' a, change kind es = some (es', a) → es'.Distinct)
    (h : TomlEntries.modify? dotted change path kind es = some (es', a)) : es'.Distinct := by
  cases path with
  | nil => exact keeps es' a h
  | cons name path =>
    rw [TomlEntries.modify?] at h
    cases found : es.lookup name with
    | none =>
      rw [found] at h
      obtain ⟨⟨sub, b⟩, -, h⟩ := Option.bind_eq_some_iff.mp h
      obtain ⟨rfl, -⟩ := Prod.mk.inj (Option.some.inj h)
      exact distinct.append found _
    | some item =>
      rw [found] at h
      cases item with
      | scalar | array => cases h
      | table kind sub =>
        dsimp only at h
        split at h
        · cases h
        · obtain ⟨⟨sub', b⟩, -, h⟩ := Option.bind_eq_some_iff.mp h
          obtain ⟨rfl, -⟩ := Prod.mk.inj (Option.some.inj h)
          exact distinct.replace ..
      | tables rows =>
        obtain ⟨row, -, h⟩ := Option.bind_eq_some_iff.mp h
        obtain ⟨⟨row', b⟩, -, h⟩ := Option.bind_eq_some_iff.mp h
        obtain ⟨rfl, -⟩ := Prod.mk.inj (Option.some.inj h)
        exact distinct.replace ..

theorem define? {path : List String} {item : TomlItem} (distinct : es.Distinct)
    (h : TomlEntries.define? path name item es = some es') : es'.Distinct := by
  obtain ⟨⟨es'', _⟩, changed, rfl⟩ := Option.map_eq_some_iff.mp h
  refine distinct.modify? (fun es' a change => ?_) changed
  split at change
  · cases change
  · next new =>
    obtain ⟨rfl, -⟩ := Prod.mk.inj (Option.some.inj change)
    have absent : es.lookup name = none := Option.not_isSome_iff_eq_none.mp (not_or.mp new).2
    exact distinct.append absent item

end Distinct

end TomlEntries

namespace TomlState

open TomlEntries

/-- What each statement keeps: the names of the completed table are distinct, and so are those of
the table that is being filled if it is to be the completed one. -/
structure Sound (s : TomlState) : Prop where
  root : s.root.Distinct
  current : s.place = none → s.current.Distinct

variable {s s' : TomlState} {root es : TomlEntries} {path : List String} {name : String}

theorem sound_start : start.Sound := ⟨distinct_nil, fun _ => distinct_nil⟩

theorem Sound.settle? (sound : s.Sound) (h : s.settle? = some es) : es.Distinct := by
  unfold TomlState.settle? at h
  split at h
  · next nowhere =>
    obtain rfl := Option.some.inj h
    exact sound.current nowhere
  · obtain ⟨⟨es', _⟩, changed, rfl⟩ := Option.map_eq_some_iff.mp h
    refine sound.root.modify? (fun es' a change => ?_) changed
    split at change
    · next new =>
      obtain ⟨rfl, -⟩ := Prod.mk.inj (Option.some.inj change)
      exact sound.root.append new _
    · obtain ⟨rfl, -⟩ := Prod.mk.inj (Option.some.inj change)
      exact sound.root.replace ..
    · cases change

theorem sound_begin? (distinct : root.Distinct) (h : begin? root path name = some s) :
    s.Sound := by
  obtain ⟨⟨root', current⟩, changed, h⟩ := Option.bind_eq_some_iff.mp h
  obtain rfl := Option.some.inj h
  refine ⟨distinct.modify? (fun es' a change => ?_) changed, nofun⟩
  split at change
  · obtain ⟨rfl, -⟩ := Prod.mk.inj (Option.some.inj change)
    exact distinct
  · obtain ⟨rfl, -⟩ := Prod.mk.inj (Option.some.inj change)
    exact distinct.filter _
  · cases change

theorem sound_beginRepeated? (distinct : root.Distinct)
    (h : beginRepeated? root path name = some s) : s.Sound := by
  obtain ⟨⟨root', _⟩, changed, h⟩ := Option.bind_eq_some_iff.mp h
  obtain rfl := Option.some.inj h
  refine ⟨distinct.modify? (fun es' a change => ?_) changed, nofun⟩
  split at change
  · next new =>
    obtain ⟨rfl, -⟩ := Prod.mk.inj (Option.some.inj change)
    exact distinct.append new _
  · obtain ⟨rfl, -⟩ := Prod.mk.inj (Option.some.inj change)
    exact distinct
  · cases change

/-- One more statement. -/
theorem Sound.step? (sound : s.Sound) {statement : TomlStatement}
    (h : s.step? statement = some s') : s'.Sound := by
  cases statement with
  | define path name item =>
    obtain ⟨current, defined, h⟩ := Option.bind_eq_some_iff.mp h
    obtain rfl := Option.some.inj h
    exact ⟨sound.root, fun nowhere => (sound.current nowhere).define? defined⟩
  | header path name =>
    obtain ⟨root, settled, begun⟩ := Option.bind_eq_some_iff.mp h
    exact sound_begin? (sound.settle? settled) begun
  | repeatedHeader path name =>
    obtain ⟨root, settled, begun⟩ := Option.bind_eq_some_iff.mp h
    exact sound_beginRepeated? (sound.settle? settled) begun

/-- All statements of a document. -/
theorem Sound.foldlM (sound : s.Sound) {statements : List TomlStatement}
    (h : statements.foldlM TomlState.step? s = some s') : s'.Sound := by
  induction statements generalizing s with
  | nil =>
    obtain rfl := Option.some.inj h
    exact sound
  | cons statement rest ih =>
    rw [List.foldlM_cons] at h
    obtain ⟨next, stepped, later⟩ := Option.bind_eq_some_iff.mp h
    exact ih (sound.step? stepped) later

end TomlState

/-- The names of a document are distinct. -/
theorem Toml.distinct_of_read? {text : String} {es : TomlEntries} (h : read? text = some es) :
    es.Distinct := by
  obtain ⟨statements, -, h⟩ := Option.bind_eq_some_iff.mp h
  obtain ⟨last, ran, settled⟩ := Option.bind_eq_some_iff.mp h
  exact (TomlState.sound_start.foldlM ran).settle? settled

end GraphIngest
