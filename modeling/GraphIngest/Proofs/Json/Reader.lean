import GraphIngest.Json.Reader

/-!
# What was read

What a text holds if it was read. Errors are of no concern here: each step of a reader has to have
gone well.

## Main definitions

* `Except.bind_eq_ok`: steps that went well one after another.
* `JsonReader.text_eq_ok`, `JsonReader.optional_eq_ok`, `JsonReader.list_eq_ok`: what the basic
  readers read.
* `JsonReader.run_eq_ok`: what a whole text is read from.
* `JsonToken.tokens_eq_tokensWithin`: tokens by recursion on a bound.
-/

namespace GraphIngest

/-! ## Results of steps -/

namespace Except

variable {ε ε' α β : Type}

theorem bind_eq_ok {x : Except ε α} {f : α → Except ε β} {b : β} :
    (x >>= f) = .ok b ↔ ∃ a, x = .ok a ∧ f a = .ok b := by
  cases x with
  | error e => simp [bind, Except.bind]
  | ok a => simp [bind, Except.bind]

theorem map_eq_ok {x : Except ε α} {f : α → β} {b : β} :
    f <$> x = .ok b ↔ ∃ a, x = .ok a ∧ f a = b := by
  cases x with
  | error e => simp [Functor.map, Except.map]
  | ok a => simp [Functor.map, Except.map]

theorem mapError_eq_ok {x : Except ε α} {f : ε → ε'} {a : α} :
    x.mapError f = .ok a ↔ x = .ok a := by
  cases x with
  | error e => exact iff_of_false nofun nofun
  | ok b => exact ⟨fun h => congrArg _ (Except.ok.inj h), fun h => congrArg _ (Except.ok.inj h)⟩

/-- A check that may be made before a result does not change it. -/
theorem eq_of_guarded {c : Prop} [Decidable c] {x : Except ε Unit} {a b : α}
    (h : (if c then x >>= fun _ => pure a else pure a) = .ok b) : a = b := by
  split at h
  · obtain ⟨-, -, h⟩ := bind_eq_ok.mp h
    exact Except.ok.inj h
  · exact Except.ok.inj h

end Except

namespace JsonToken

/-- The tokens of a text that is no longer than a bound. -/
def tokensWithin : (bound : Nat) → List Symbol → List JsonToken
  | 0, _ => []
  | bound + 1, s =>
    match next? s with
    | none => []
    | some r => r.1 :: tokensWithin bound r.2

/-- The tokens of a text can be found by recursion on its length. -/
theorem tokens_eq_tokensWithin {bound : Nat} {s : List Symbol} (h : s.length ≤ bound) :
    tokens s = tokensWithin bound s := by
  induction bound generalizing s with
  | zero =>
    obtain rfl := List.eq_nil_of_length_eq_zero (Nat.le_zero.mp h)
    rw [tokens]
    rfl
  | succ bound ih =>
    rw [tokens, tokensWithin]
    split
    · rename_i last
      rw [last]
    · rename_i r next
      have shorter := length_next?_lt next
      rw [next, ih (by omega)]

end JsonToken

/-- The text that stands in a place, if it is one that can be read. -/
def Draft.text? : Draft → Option String
  | .text q => q.read.toOption
  | _ => none

namespace JsonReader

variable {α β : Type} {room : Nat} {d : Draft}

theorem under_eq_ok {step : PathStep} {x : Except ReadError α} {a : α} :
    under step x = .ok a ↔ x = .ok a := Except.mapError_eq_ok

theorem here_eq_ok {x : Except Malformed α} {a : α} : here x = .ok a ↔ x = .ok a :=
  Except.mapError_eq_ok

theorem key_eq_ok {q : Quoted} {name : String} : key q = .ok name ↔ q.read = .ok name :=
  under_eq_ok.trans here_eq_ok

theorem refuse_ne_ok {expected : String} {a : α} : refuse expected d ≠ .ok a := by
  intro h
  obtain ⟨_, -, h⟩ := Except.bind_eq_ok.mp h
  cases h

/-! ## Basic types -/

theorem text_eq_ok {s : String} : text room d = .ok s ↔ d.text? = some s := by
  cases d with
  | text q =>
    refine here_eq_ok.trans ?_
    cases h : q.read with
    | error m => simp [Draft.text?, h, Except.toOption]
    | ok s' => simp [Draft.text?, h, Except.toOption]
  | _ => exact iff_of_false refuse_ne_ok (by simp [Draft.text?])

theorem optional_eq_ok {read : JsonReader α} {v : Option α} :
    optional read room d = .ok v ↔
      d = .null ∧ none = v ∨ d ≠ .null ∧ ∃ a, read room d = .ok a ∧ some a = v := by
  cases d with
  | null => simp [optional]
  | _ => simp [optional, Except.map_eq_ok]

theorem enter_eq_ok {left : Nat} (h : enter room = .ok left) : room = left + 1 := by
  cases room with
  | zero => cases h
  | succ room => exact congrArg _ (Except.ok.inj h)

/-- Each item is read from what stands in its place. -/
theorem exists_getElem?_of_items {read : Draft → Except ReadError α} {index i : Nat}
    {ds : List Draft} {as : List α} (h : items read index ds = .ok as) {d : Draft}
    (found : ds[i]? = some d) : ∃ a, as[i]? = some a ∧ read d = .ok a := by
  induction ds generalizing index i as with
  | nil => simp at found
  | cons first rest ih =>
    obtain ⟨a, value, h⟩ := Except.bind_eq_ok.mp h
    obtain ⟨others, after, h⟩ := Except.bind_eq_ok.mp h
    obtain rfl : a :: others = as := Except.ok.inj h
    cases i with
    | zero =>
      obtain rfl : first = d := by simpa using found
      exact ⟨a, rfl, under_eq_ok.mp value⟩
    | succ i =>
      rw [List.getElem?_cons_succ] at found ⊢
      exact ih after found

/-- What holds of whatever is read from an item holds of all that was read. -/
theorem forall_of_items {read : Draft → Except ReadError α} {P : α → Prop}
    (each : ∀ d a, read d = .ok a → P a) {index : Nat} {ds : List Draft} {as : List α}
    (h : items read index ds = .ok as) : ∀ a ∈ as, P a := by
  induction ds generalizing index as with
  | nil =>
    obtain rfl : [] = as := Except.ok.inj h
    simp
  | cons d rest ih =>
    obtain ⟨a, first, h⟩ := Except.bind_eq_ok.mp h
    obtain ⟨others, after, h⟩ := Except.bind_eq_ok.mp h
    obtain rfl : a :: others = as := Except.ok.inj h
    exact List.forall_mem_cons.mpr ⟨each d a (under_eq_ok.mp first), ih after⟩

/-- A property of what is read from each item, as one of what is read from all of them. -/
theorem map_eq_of_items {read : Draft → Except ReadError α} {g : α → β} {g' : Draft → β}
    (each : ∀ d a, read d = .ok a → g a = g' d) {index : Nat} {ds : List Draft} {as : List α}
    (h : items read index ds = .ok as) : as.map g = ds.map g' := by
  induction ds generalizing index as with
  | nil =>
    obtain rfl : [] = as := Except.ok.inj h
    rfl
  | cons d rest ih =>
    obtain ⟨a, first, h⟩ := Except.bind_eq_ok.mp h
    obtain ⟨others, after, h⟩ := Except.bind_eq_ok.mp h
    obtain rfl : a :: others = as := Except.ok.inj h
    rw [List.map_cons, List.map_cons, each d a (under_eq_ok.mp first), ih after]

theorem list_eq_ok {read : JsonReader α} {as : List α} (h : list read room d = .ok as) :
    ∃ ds ending left, room = left + 1 ∧ d = .array ds ending ∧ here (listEnd ending) = .ok () ∧
      items (read left) 0 ds = .ok as := by
  cases d with
  | array ds ending =>
    obtain ⟨left, entered, h⟩ := Except.bind_eq_ok.mp h
    obtain ⟨as', read, h⟩ := Except.bind_eq_ok.mp h
    obtain ⟨_, ended, h⟩ := Except.bind_eq_ok.mp h
    obtain rfl : as' = as := Except.ok.inj h
    exact ⟨ds, ending, left, enter_eq_ok entered, rfl, under_eq_ok.mp ended, read⟩
  | _ => exact absurd h refuse_ne_ok

/-! ## Whole texts -/

theorem run_eq_ok {read : JsonReader α} {s : List Symbol} {a : α} (h : read.run s = .ok a) :
    read greatestDepth (Draft.build (JsonToken.tokens s)).1 = .ok a := by
  obtain ⟨a', read, h⟩ := Except.bind_eq_ok.mp h
  split at h
  · obtain rfl : a' = a := Except.ok.inj h
    exact read
  · cases h

end JsonReader

end GraphIngest
