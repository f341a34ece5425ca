import GraphIngest.Config.Disk

/-!
# What a written file changes

A file is written at one place. Every path that led somewhere still leads there, and what is at any
other place stays.

## Main definitions

* `Disk.place?`: the place that a path leads to, whether there is anything or not.
* `Disk.put`: a file at a place.
* `Disk.write_eq_ok_iff`: when a file is written, and where.
* `Disk.find_put_here`, `Disk.sameElsewhere_put`: what paths lead to after a file was written.
-/

namespace GraphIngest

theorem Symbol.text?_ofString (s : String) : text? (ofString s) = some s := by
  have same : s.toList.mapM some = some s.toList := by
    simpa using List.mapM_pure (m := Option) (l := s.toList) (f := id)
  simp only [text?, ofString, List.mapM_map, Function.comp_def]
  simp [same]

namespace Disk

variable {d : Disk} {p : Place} {path text : String}

/-! ## Places -/

/-- The place that a path leads to, whether there is anything or not. -/
def place? (d : Disk) (path : String) : Except FileError Place := do
  let (parent, name) ← d.locate path
  enter parent name

/-- What a path finds at a place. -/
def seen (d : Disk) (path : String) (p : Place) : Except FileError DiskEntry :=
  match d.entry? p with
  | none => .error .notFound
  | some (.file c) => if wantsDirectory path then .error .notDirectory else .ok (.file c)
  | some .directory => .ok .directory

theorem find_eq : d.find path = d.place? path >>= d.seen path := by
  rw [place?, bind_assoc]
  rfl

/-! ## A file at a place -/

/-- A file at a place. -/
def put (d : Disk) (p : Place) (text : String) : Disk :=
  let file : DiskEntry := .file (Symbol.ofString text)
  if (d.entries.lookup p).isSome then ⟨d.entries.map fun e => if e.1 = p then (p, file) else e⟩
  else ⟨d.entries ++ [(p, file)]⟩

/-- A file is written where a path leads to, unless there is a directory. -/
theorem write_eq_ok_iff {after : Disk} : d.write path text = .ok after ↔
    ∃ p, d.place? path = .ok p ∧ wantsDirectory path = false ∧ d.entry? p ≠ some .directory ∧
      after = d.put p text := by
  have placed (p : Place) :
      (if (d.entries.lookup p).isSome then
        pure ⟨d.entries.map fun e => if e.1 = p then (p, .file (Symbol.ofString text)) else e⟩
      else pure ⟨d.entries ++ [(p, .file (Symbol.ofString text))]⟩ : Except FileError Disk) =
        .ok (d.put p text) := by
    unfold put
    split <;> rfl
  unfold write place?
  cases d.locate path with
  | error e => simp [bind, Except.bind]
  | ok found =>
    cases wantsDirectory path with
    | true => simp [bind, Except.bind, throw, throwThe, MonadExceptOf.throw]
    | false =>
      cases entered : enter found.1 found.2 with
      | error e => simp [bind, Except.bind, entered]
      | ok p =>
        by_cases directory : d.entry? p = some .directory
        · simp [bind, Except.bind, entered, directory, throw, throwThe, MonadExceptOf.throw]
        · simp only [bind, Except.bind, entered, directory, placed]
          simp [directory, eq_comm (a := after)]

theorem isOrigin_of_entry? (free : d.entry? p ≠ some .directory) : p.isOrigin = false := by
  rw [Bool.eq_false_iff]
  exact fun origin => free (if_pos origin)

theorem lookup_replaced (entries : List (Place × DiskEntry)) (p q : Place) (e : DiskEntry) :
    (entries.map fun old => if old.1 = p then (p, e) else old).lookup q =
      if q = p then (entries.lookup p).map fun _ => e else entries.lookup q := by
  induction entries with
  | nil => simp
  | cons old entries ih =>
    obtain ⟨place, content⟩ := old
    by_cases here : place = p
    · subst here
      by_cases same : q = place
      · simp [same]
      · have differ : (q == place) = false := by simpa using same
        simpa [same, List.lookup_cons, differ] using ih
    · have elsewhere : (p == place) = false := by simpa using Ne.symm here
      simp only [List.map_cons, if_neg here, List.lookup_cons, elsewhere, ih]
      split
      · rename_i same
        have same : q = place := by simpa using same
        rw [if_neg (same ▸ here)]
      · rfl

/-- A file that is put somewhere is found there, and nothing else is found elsewhere. -/
theorem entry?_put (free : d.entry? p ≠ some .directory) (q : Place) :
    entry? (d.put p text) q =
      if q = p then some (.file (Symbol.ofString text)) else d.entry? q := by
  have inside := isOrigin_of_entry? free
  by_cases same : q = p
  · subst same
    rw [if_pos rfl, entry?, if_neg (by simp [inside])]
    unfold put
    cases old : d.entries.lookup q with
    | none => simp [List.lookup_append, old]
    | some e => simp [lookup_replaced, old]
  · have differ : (q == p) = false := by simpa using same
    rw [if_neg same]
    unfold entry? put
    cases d.entries.lookup p with
    | none => simp [List.lookup_append, List.lookup_cons, differ]
    | some e => simp [lookup_replaced, same]

/-! ## Paths after a file was written -/

theorem toOption_bind {ε α β : Type} (x : Except ε α) (f : α → Except ε β) :
    (x >>= f).toOption = x.toOption.bind fun a => (f a).toOption := by
  cases x <;> rfl

/-- A walk leads through the same directories, since a new file is none. -/
theorem walk_put (free : d.entry? p ≠ some .directory) (names : List String) (q : Place) :
    ((d.put p text).walk q names).toOption = (d.walk q names).toOption := by
  induction names generalizing q with
  | nil => rfl
  | cons name names ih =>
    rw [walk, walk, toOption_bind, toOption_bind]
    congr 1
    funext r
    by_cases here : r = p
    · subst here
      rw [entry?_put free, if_pos rfl]
      cases old : d.entry? r with
      | none => rfl
      | some e =>
        cases e with
        | file c => rfl
        | directory => exact absurd old free
    · rw [entry?_put free, if_neg here]
      cases d.entry? r with
      | none => rfl
      | some e =>
        cases e with
        | file c => rfl
        | directory => exact ih r

theorem locate_put (free : d.entry? p ≠ some .directory) (path : String) :
    ((d.put p text).locate path).toOption = (d.locate path).toOption := by
  unfold locate
  split
  · rfl
  split
  · rfl
  split
  · rfl
  · simp only [toOption_bind, walk_put free]

/-- Every path leads to where it led. -/
theorem place?_put (free : d.entry? p ≠ some .directory) (path : String) :
    ((d.put p text).place? path).toOption = (d.place? path).toOption := by
  rw [place?, place?, toOption_bind, toOption_bind, locate_put free]

theorem toOption_eq_some {ε α : Type} {x : Except ε α} {a : α} :
    x.toOption = some a ↔ x = .ok a := by
  cases x <;> simp [Except.toOption]

/-- A path that leads to a new file finds it. -/
theorem find_put_here (free : d.entry? p ≠ some .directory) (leads : d.place? path = .ok p)
    (file : wantsDirectory path = false) :
    (d.put p text).find path = .ok (.file (Symbol.ofString text)) := by
  have leads : (d.put p text).place? path = .ok p := by
    rw [← toOption_eq_some, place?_put free, toOption_eq_some, leads]
  rw [find_eq, leads]
  simp [bind, Except.bind, seen, entry?_put free, file]

/-- A path that leads elsewhere finds what it found. -/
theorem find_put_elsewhere (free : d.entry? p ≠ some .directory) (leads : d.place? path ≠ .ok p) :
    ((d.put p text).find path).toOption = (d.find path).toOption := by
  rw [find_eq, find_eq, toOption_bind, toOption_bind, place?_put free]
  cases place : d.place? path with
  | error e => rfl
  | ok q =>
    have elsewhere : q ≠ p := by
      rintro rfl
      exact leads place
    have same : (d.put p text).seen path q = d.seen path q := by
      simp only [seen, entry?_put free, if_neg elsewhere]
    exact congrArg Except.toOption same

/-- Two disks differ at most in what the first finds at a path. -/
structure SameElsewhere (before after : Disk) (path : String) : Prop where
  entries : ∀ p, before.place? path ≠ .ok p → after.entry? p = before.entry? p
  paths : ∀ other, before.place? other ≠ before.place? path →
    (after.find other).toOption = (before.find other).toOption

/-- A file that is written leaves everything else as it was. -/
theorem sameElsewhere_put (free : d.entry? p ≠ some .directory) (leads : d.place? path = .ok p) :
    d.SameElsewhere (d.put p text) path where
  entries q elsewhere := by
    have differ : q ≠ p := by
      rintro rfl
      exact elsewhere leads
    rw [entry?_put free, if_neg differ]
  paths _ elsewhere := find_put_elsewhere free fun same => elsewhere (same.trans leads.symm)

end Disk

end GraphIngest
