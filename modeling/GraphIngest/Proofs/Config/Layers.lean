import GraphIngest.Config.Source
import GraphIngest.Proofs.Config.Written
import GraphIngest.Proofs.Json.Reader
import GraphIngest.Proofs.Toml.Table

/-!
# Settings in layers

The settings of a run are the defaults, over them those of a file, and over these what wins over
both. What a file gives depends only on what it says for each name, wherever that stands in it.

## Main definitions

* `Settings.Partial.item?`: what a document says for a name if a setting is given.
* `Settings.Partial.StandsIn`, `Settings.Partial.GivenAt`: settings that a document or a file gives.
* `Settings.Partial.foldlM_setEntry_eq_ok_iff`: entries are put into settings in any order.
* `Settings.Layered`: settings that are put together in layers.
* `Settings.resolve_layered`: so are the settings of a run.
-/

namespace GraphIngest

/-! ## Items -/

namespace TomlItem

variable {α : Type} {item : TomlItem}

theorem text_eq_ok_iff {s : String} : item.text = .ok s ↔ item = .scalar (.text s) := by
  unfold text
  split <;> simp_all

theorem nat_eq_ok_iff {greatest n : Nat} {expected : String} :
    item.nat greatest expected = .ok n ↔ n ≤ greatest ∧ item = .scalar (.int n) := by
  constructor
  · intro h
    unfold nat at h
    split at h
    · split at h
      · next m bounds =>
        obtain rfl := Except.ok.inj h
        have same : (m.toNat : Int) = m := Int.toNat_of_nonneg bounds.1
        exact ⟨by omega, by rw [same]⟩
      · cases h
    · cases h
  · rintro ⟨small, rfl⟩
    exact nat_int small expected

/-- Numbers of a type are the natural numbers up to a bound. -/
theorem map_nat_eq_ok_iff {ofNat : Nat → α} {toNat : α → Nat} {greatest : Nat} {a : α}
    (bound : ∀ a, toNat a ≤ greatest) (left : ∀ a, ofNat (toNat a) = a)
    (right : ∀ n ≤ greatest, toNat (ofNat n) = n) (expected : String) :
    ofNat <$> item.nat greatest expected = .ok a ↔ item = .scalar (.int (toNat a)) := by
  rw [Except.map_eq_ok]
  constructor
  · rintro ⟨n, read, rfl⟩
    obtain ⟨small, rfl⟩ := nat_eq_ok_iff.mp read
    rw [right n small]
  · rintro rfl
    exact ⟨toNat a, nat_int (bound a) expected, left a⟩

theorem uint16_eq_ok_iff {n : UInt16} : item.uint16 = .ok n ↔ item = .scalar (.int n.toNat) :=
  map_nat_eq_ok_iff (fun n => Nat.le_pred_of_lt n.toNat_lt) (fun _ => UInt16.ofNat_toNat)
    (fun _ small => UInt16.toNat_ofNat_of_lt' (Nat.lt_of_le_pred (by decide) small)) _

theorem uint32_eq_ok_iff {n : UInt32} : item.uint32 = .ok n ↔ item = .scalar (.int n.toNat) :=
  map_nat_eq_ok_iff (fun n => Nat.le_pred_of_lt n.toNat_lt) (fun _ => UInt32.ofNat_toNat)
    (fun _ small => UInt32.toNat_ofNat_of_lt' (Nat.lt_of_le_pred (by decide) small)) _

theorem uint64_eq_ok_iff {n : UInt64} : item.uint64 = .ok n ↔ item = .scalar (.int n.toNat) :=
  map_nat_eq_ok_iff (fun n => Nat.le_pred_of_lt n.toNat_lt) (fun _ => UInt64.ofNat_toNat)
    (fun _ small => UInt64.toNat_ofNat_of_lt' (Nat.lt_of_le_pred (by decide) small)) _

end TomlItem

namespace Settings

namespace Partial

/-- The names of settings in a document. -/
def names : List String := ["listen_port", "store_host", "store_port", "store_scheme",
  "ready_attempts", "ready_delay_secs", "request_timeout_secs"]

/-- The item that a setting is in a document, if it is given. -/
def item? (p : Partial) : String → Option TomlItem
  | "listen_port" => p.listenPort.map fun n => .scalar (.int n.toNat)
  | "store_host" => p.storeHost.map fun s => .scalar (.text s)
  | "store_port" => p.storePort.map fun n => .scalar (.int n.toNat)
  | "store_scheme" => p.storeScheme.map fun s => .scalar (.text s)
  | "ready_attempts" => p.readyAttempts.map fun n => .scalar (.int n.toNat)
  | "ready_delay_secs" => p.readyDelay.map fun n => .scalar (.int n.toNat)
  | "request_timeout_secs" => p.requestTimeout.map fun n => .scalar (.int n.toNat)
  | _ => none

theorem item?_of_unknown {name : String} (unknown : name ∉ names) (p : Partial) :
    p.item? name = none := by
  unfold item?
  split <;> first | rfl | exact absurd (by decide) unknown

theorem item?_empty (name : String) : ({} : Partial).item? name = none := by
  unfold item?
  split <;> rfl

/-- Settings are determined by their items. -/
theorem ext_item? {p q : Partial} (same : ∀ name, p.item? name = q.item? name) : p = q := by
  have apart {α : Type} {f : α → TomlItem} (injective : Function.Injective f) {a b : Option α}
      (h : a.map f = b.map f) : a = b := Option.map_injective injective h
  have text : Function.Injective fun s => TomlItem.scalar (.text s) := fun _ _ h => by simpa using h
  have number {α : Type} {toNat : α → Nat} (inj : ∀ {a b}, toNat a = toNat b → a = b) :
      Function.Injective fun a => TomlItem.scalar (.int (toNat a)) := by
    intro a b h
    simp only [TomlItem.scalar.injEq, TomlScalar.int.injEq, Int.ofNat_inj] at h
    exact inj h
  cases p
  cases q
  congr
  · exact apart (number UInt16.toNat.inj) (same "listen_port")
  · exact apart text (same "store_host")
  · exact apart (number UInt16.toNat.inj) (same "store_port")
  · exact apart text (same "store_scheme")
  · exact apart (number UInt32.toNat.inj) (same "ready_attempts")
  · exact apart (number UInt64.toNat.inj) (same "ready_delay_secs")
  · exact apart (number UInt64.toNat.inj) (same "request_timeout_secs")

theorem item?_put {p p' : Partial} {name : String} {item : TomlItem} (known : name ∈ names)
    (here : p'.item? name = some item)
    (elsewhere : ∀ other, other ≠ name → p'.item? other = p.item? other) (other : String) :
    p'.item? other = if other = name ∧ name ∈ names then some item else p.item? other := by
  by_cases same : other = name
  · rw [if_pos ⟨same, known⟩, same, here]
  · rw [if_neg fun both => same both.1, elsewhere other same]

/-- An entry that is put into settings is what is given for its name, if that is known. Nothing else
changes. -/
theorem item?_setEntry {p p' : Partial} {name : String} {item : TomlItem}
    (h : p.setEntry (name, item) = .ok p') (other : String) :
    p'.item? other = if other = name ∧ name ∈ names then some item else p.item? other := by
  unfold setEntry at h
  split at h
  case h_8 a b c d e f g =>
    have unknown : name ∉ names := by
      simp only [names, List.mem_cons, List.not_mem_nil, not_or]
      exact ⟨a, b, c, d, e, f, g, not_false⟩
    obtain rfl := Except.ok.inj h
    simp [unknown]
  all_goals
    rename_i same
    obtain rfl : name = _ := same
    obtain ⟨v, read, h⟩ := Except.bind_eq_ok.mp h
    obtain rfl := Except.ok.inj h
    simp only [TomlItem.uint16_eq_ok_iff, TomlItem.uint32_eq_ok_iff, TomlItem.uint64_eq_ok_iff,
      TomlItem.text_eq_ok_iff] at read
    obtain rfl := read
    refine item?_put (by decide) rfl (fun other differ => ?_) other
    unfold item?
    split <;> first | rfl | exact absurd rfl differ

/-- An entry can be put into settings if its item is what any settings are for its name. -/
theorem exists_setEntry (p q : Partial) {name : String} {item : TomlItem}
    (fits : name ∈ names → q.item? name = some item) : ∃ p', p.setEntry (name, item) = .ok p' := by
  unfold setEntry
  split
  case h_8 => exact ⟨p, rfl⟩
  all_goals
    rename_i same
    obtain rfl : name = _ := same
    obtain ⟨v, -, rfl⟩ := Option.map_eq_some_iff.mp (fits (by decide))
    simp only [TomlItem.uint16_int, TomlItem.uint32_int, TomlItem.uint64_int, TomlItem.text]
    exact ⟨_, rfl⟩

/-- The settings that come of a document are what it says for each name, wherever that stands in
it. -/
theorem foldlM_setEntry_eq_ok_iff {es : TomlEntries} (distinct : es.Distinct) {p p' : Partial} :
    es.foldlM setEntry p = .ok p' ↔
      ∀ name, p'.item? name =
        (if name ∈ names then es.lookup name else none).or (p.item? name) := by
  induction es generalizing p with
  | nil =>
    simp only [List.foldlM_nil, List.lookup_nil, ite_self, Option.none_or]
    constructor
    · intro same name
      rw [Except.ok.inj same]
    · intro same
      exact congrArg Except.ok (ext_item? fun name => (same name).symm)
  | cons e rest ih =>
    obtain ⟨n, item⟩ := e
    obtain ⟨new, distinct⟩ := TomlEntries.distinct_cons.mp distinct
    have later : rest.lookup n = none := TomlEntries.lookup_eq_none_iff.mpr new
    -- What the rest says comes after the first entry, and does not speak of its name again.
    have step (q : Partial) (put : ∀ other, q.item? other =
        if other = n ∧ n ∈ names then some item else p.item? other) (name : String) :
        (if name ∈ names then rest.lookup name else none).or (q.item? name) =
          (if name ∈ names then ((n, item) :: rest).lookup name else none).or (p.item? name) := by
      rw [put, List.lookup_cons]
      by_cases same : name = n
      · subst same
        by_cases known : name ∈ names <;> simp [known, later]
      · have differ : (name == n) = false := by simpa using same
        simp only [same, false_and, if_false, differ]
    rw [List.foldlM_cons, Except.bind_eq_ok]
    constructor
    · rintro ⟨q, first, others⟩ name
      rw [(ih distinct).mp others name, step q (item?_setEntry first)]
    · intro items
      obtain ⟨q, first⟩ := exists_setEntry p p' fun known => by
        rw [items n, if_pos known, List.lookup_cons_self, Option.some_or]
      refine ⟨q, first, (ih distinct).mpr fun name => ?_⟩
      rw [items, step q (item?_setEntry first)]

/-- Whether settings stand in a document: what is given for each name is what the document says for
it, and nothing is given where it says nothing. What else it says does not matter. -/
def StandsIn (p : Partial) (es : TomlEntries) : Prop :=
  ∀ name ∈ names, es.lookup name = p.item? name

theorem foldlM_setEntry_empty_iff {es : TomlEntries} (distinct : es.Distinct) {p : Partial} :
    es.foldlM setEntry {} = .ok p ↔ p.StandsIn es := by
  rw [foldlM_setEntry_eq_ok_iff distinct]
  simp only [item?_empty, Option.or_none]
  constructor
  · intro items name known
    rw [items, if_pos known]
  · intro stands name
    by_cases known : name ∈ names
    · rw [if_pos known, stands name known]
    · rw [if_neg known, item?_of_unknown known]

end Partial

/-- The settings of a document are those that stand in it, and the defaults of the others. -/
theorem ofDocument_eq_ok_iff {text : String} {s : Settings} :
    ofDocument text = .ok s ↔
      ∃ es p, Toml.read? text = some es ∧ Partial.StandsIn p es ∧ p.complete = s := by
  unfold ofDocument
  cases table : Toml.read? text with
  | none => simp
  | some es =>
    have distinct := Toml.distinct_of_read? table
    simp only [Option.some.injEq, exists_and_left, exists_eq_left',
      ← Partial.foldlM_setEntry_empty_iff distinct]
    cases es.foldlM Partial.setEntry {} with
    | error m => simp
    | ok p => simp

/-- Whether settings are given by the file at a path. Where there is none, nothing is given; where
there is one, it has to be a document in which the settings stand. -/
inductive Partial.GivenAt (disk : Disk) (path : String) : Partial → Prop
  | absent (nothing : disk.exists path = false) : GivenAt disk path {}
  | document {p : Partial} {text : String} {es : TomlEntries} (there : disk.exists path)
      (read : disk.read path = .ok text) (table : Toml.read? text = some es)
      (stands : p.StandsIn es) : GivenAt disk path p

variable {disk : Disk} {path : Option String} {o o' : Overrides} {s s' : Settings}

theorem load_eq_ok_none_iff :
    load disk path = .ok none ↔ disk.exists (path.getD defaultPath) = false := by
  unfold load
  dsimp only
  split
  · next there =>
    refine iff_of_false ?_ (by simp [there])
    split
    · nofun
    · split <;> nofun
  · next nothing => exact iff_of_true rfl (by simpa using nothing)

theorem load_eq_ok_some_iff : load disk path = .ok (some s) ↔
    disk.exists (path.getD defaultPath) ∧
      ∃ text, disk.read (path.getD defaultPath) = .ok text ∧ ofDocument text = .ok s := by
  unfold load
  dsimp only
  split
  · next there =>
    cases disk.read (path.getD defaultPath) with
    | error e => simp
    | ok text => cases document : ofDocument text <;> simp [there, document]
  · next nothing => exact iff_of_false nofun fun h => nothing h.1

/-- What wins over a file is put over its settings once they are loaded. -/
theorem resolve_eq (disk : Disk) (path : Option String) (o : Overrides) : resolve disk path o =
    (fun loaded : Option Settings => (loaded.getD {}).withOverrides o) <$> load disk path := by
  unfold resolve
  cases load disk path <;> rfl

/-- The settings of a run are those that are given at the path, and the defaults of the others, but
for what wins over both. -/
theorem resolve_eq_ok_iff : resolve disk path o = .ok s ↔
    ∃ p, Partial.GivenAt disk (path.getD defaultPath) p ∧ p.complete.withOverrides o = s := by
  rw [resolve_eq, Except.map_eq_ok]
  constructor
  · rintro ⟨_ | s', loaded, rfl⟩
    · exact ⟨{}, .absent (load_eq_ok_none_iff.mp loaded), rfl⟩
    · obtain ⟨there, text, read, document⟩ := load_eq_ok_some_iff.mp loaded
      obtain ⟨es, p, table, stands, rfl⟩ := ofDocument_eq_ok_iff.mp document
      exact ⟨p, .document there read table stands, rfl⟩
  · rintro ⟨p, given, rfl⟩
    cases given with
    | absent nothing => exact ⟨none, load_eq_ok_none_iff.mpr nothing, rfl⟩
    | document there read table stands =>
      have document := ofDocument_eq_ok_iff.mpr ⟨_, p, table, stands, rfl⟩
      exact ⟨some p.complete, load_eq_ok_some_iff.mpr ⟨there, _, read, document⟩, rfl⟩

/-- Settings are given at a path unless the file there cannot be read, is no document, or is one in
which no settings stand. -/
theorem Partial.exists_givenAt_iff {path : String} : (∃ p, GivenAt disk path p) ↔
    (disk.exists path → ∃ text es p, disk.read path = .ok text ∧ Toml.read? text = some es ∧
      Partial.StandsIn p es) := by
  constructor
  · rintro ⟨p, nothing | ⟨-, read, table, stands⟩⟩ there
    · simp [nothing] at there
    · exact ⟨_, _, p, read, table, stands⟩
  · intro document
    cases there : disk.exists path with
    | false => exact ⟨{}, .absent there⟩
    | true =>
      obtain ⟨text, es, p, read, table, stands⟩ := document there
      exact ⟨p, .document there read table stands⟩

/-! ## Layers -/

/-- Whether settings are put together in layers: what wins over the file, else what the file gives,
else the default. -/
structure Layered (o : Overrides) (p : Partial) (s : Settings) : Prop where
  listenPort : s.listenPort = (o.port.or p.listenPort).getD 50052
  storeHost : s.storeHost = (o.storeHost.or p.storeHost).getD "localhost"
  storePort : s.storePort = (o.storePort.or p.storePort).getD 8080
  storeScheme : s.storeScheme = p.storeScheme.getD "http"
  readyAttempts : s.readyAttempts = p.readyAttempts.getD 5
  readyDelay : s.readyDelay = p.readyDelay.getD 5
  requestTimeout : s.requestTimeout = p.requestTimeout.getD 30

/-- Whether settings differ at most where what wins over the file does. -/
structure DifferOnlyIn (o o' : Overrides) (s s' : Settings) : Prop where
  listenPort : o.port = o'.port → s.listenPort = s'.listenPort
  storeHost : o.storeHost = o'.storeHost → s.storeHost = s'.storeHost
  storePort : o.storePort = o'.storePort → s.storePort = s'.storePort
  storeScheme : s.storeScheme = s'.storeScheme
  readyAttempts : s.readyAttempts = s'.readyAttempts
  readyDelay : s.readyDelay = s'.readyDelay
  requestTimeout : s.requestTimeout = s'.requestTimeout

theorem layered_withOverrides (p : Partial) (o : Overrides) :
    Layered o p (p.complete.withOverrides o) where
  listenPort := Option.getD_or.symm
  storeHost := Option.getD_or.symm
  storePort := Option.getD_or.symm
  storeScheme := rfl
  readyAttempts := rfl
  readyDelay := rfl
  requestTimeout := rfl

/-- The layers determine all settings. -/
theorem Layered.unique {p : Partial} (h : Layered o p s) (h' : Layered o p s') : s = s' := by
  cases s
  cases s'
  rw [Settings.mk.injEq]
  exact ⟨h.listenPort.trans h'.listenPort.symm, h.storeHost.trans h'.storeHost.symm,
    h.storePort.trans h'.storePort.symm, h.storeScheme.trans h'.storeScheme.symm,
    h.readyAttempts.trans h'.readyAttempts.symm, h.readyDelay.trans h'.readyDelay.symm,
    h.requestTimeout.trans h'.requestTimeout.symm⟩

theorem differOnlyIn_withOverrides (s : Settings) (o o' : Overrides) :
    DifferOnlyIn o o' (s.withOverrides o) (s.withOverrides o') where
  listenPort same := congrArg (Option.getD · s.listenPort) same
  storeHost same := congrArg (Option.getD · s.storeHost) same
  storePort same := congrArg (Option.getD · s.storePort) same
  storeScheme := rfl
  readyAttempts := rfl
  readyDelay := rfl
  requestTimeout := rfl

/-- The settings of a run cannot be made out exactly if there is a file that cannot be read, is no
document, or is one in which no settings stand, since what it says for one of their names is of the
wrong type or out of range. Otherwise they are what wins over the file, else what the file gives,
else the defaults. What wins over the file decides neither whether there are settings nor any that
it does not name. -/
theorem resolve_layered (disk : Disk) (path : Option String) (o : Overrides) :
    let file := path.getD defaultPath
    ((∃ e, resolve disk path o = .error e) ↔ disk.exists file ∧
      ¬∃ text es p, disk.read file = .ok text ∧ Toml.read? text = some es ∧
        Partial.StandsIn p es) ∧
    (∀ s, resolve disk path o = .ok s ↔ ∃ p, Partial.GivenAt disk file p ∧ Layered o p s) ∧
    ∀ o', (∃ e, resolve disk path o = .error e ∧ resolve disk path o' = .error e) ∨
      ∃ s s', resolve disk path o = .ok s ∧ resolve disk path o' = .ok s' ∧
        DifferOnlyIn o o' s s' := by
  intro file
  refine ⟨?_, fun s => ?_, fun o' => ?_⟩
  · have failed : (∃ e, resolve disk path o = .error e) ↔ ¬∃ s, resolve disk path o = .ok s := by
      cases resolve disk path o <;> simp
    have given : (∃ s, resolve disk path o = .ok s) ↔ ∃ p, Partial.GivenAt disk file p := by
      constructor
      · rintro ⟨s, resolved⟩
        obtain ⟨p, given, -⟩ := resolve_eq_ok_iff.mp resolved
        exact ⟨p, given⟩
      · rintro ⟨p, given⟩
        exact ⟨_, resolve_eq_ok_iff.mpr ⟨p, given, rfl⟩⟩
    rw [failed, given, Partial.exists_givenAt_iff, Classical.not_imp]
  · rw [resolve_eq_ok_iff]
    refine exists_congr fun p => and_congr_right fun _ => ?_
    constructor
    · rintro rfl
      exact layered_withOverrides p o
    · intro layered
      exact (layered_withOverrides p o).unique layered
  · rw [resolve_eq, resolve_eq]
    cases load disk path with
    | error e => exact .inl ⟨e, rfl, rfl⟩
    | ok loaded => exact .inr ⟨_, _, rfl, rfl, differOnlyIn_withOverrides _ o o'⟩

/-- An unknown name is passed over, and the port of the service is the one that wins over the
file. -/
example : (·.withOverrides { port := some 7 }) <$> ofDocument
    "store_port = 9090 # of the store\ncolour = [1, \"red\"]\nlisten_port = 0x10\n" =
      .ok { listenPort := 7, storePort := 9090 } := by
  decide +kernel

/-- A text needs quotes, so this is no document, whatever else it gives. -/
example : ofDocument "store_port = 9090\nstore_host = db\n" = .error .malformed := by
  decide +kernel

end Settings

end GraphIngest
