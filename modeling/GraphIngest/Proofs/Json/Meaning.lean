import GraphIngest.Proofs.Json.Members

/-!
# What a value denotes

An object denotes a map from names, so neither the order of its members nor those that are followed
by one of the same name make a difference, at any depth. Two values denote the same if and only if
they have the same normal form.

## Main definitions

* `JsonMeaning`: what a value denotes.
* `Json.meaning`: the meaning of a value; of equal names, the last counts.
* `Json.meaning_eq_iff`: values of one meaning have one normal form.
-/

namespace GraphIngest

/-- What a value denotes. -/
inductive JsonMeaning where
  | null
  | bool (value : Bool)
  | number (value : JsonNumber)
  | text (value : String)
  | list (items : List JsonMeaning)
  | map (member : String → Option JsonMeaning)

namespace Json

mutual

/-- What a value denotes; of members of one name, the last counts. -/
def meaning : Json → JsonMeaning
  | null => .null
  | bool b => .bool b
  | number n => .number n
  | text s => .text s
  | array items => .list (meanings items)
  | object members => .map fun name => (memberMeanings members).reverse.lookup name

def meanings : List Json → List JsonMeaning
  | [] => []
  | v :: rest => meaning v :: meanings rest

def memberMeanings : List (String × Json) → List (String × JsonMeaning)
  | [] => []
  | (name, v) :: rest => (name, meaning v) :: memberMeanings rest

end

/-! ## Maps -/

section Members

variable {α β : Type} {members members' : List (String × Json)} {name : String}

theorem lookup_map (f : α → β) (ms : List (String × α)) (name : String) :
    (ms.map fun m => (m.1, f m.2)).lookup name = (ms.lookup name).map f := by
  induction ms with
  | nil => rfl
  | cons m rest ih =>
    rw [List.map_cons, List.lookup_cons, List.lookup_cons, ih]
    split <;> rfl

theorem memberMeanings_eq (members : List (String × Json)) :
    memberMeanings members = members.map fun m => (m.1, m.2.meaning) := by
  induction members with
  | nil => rfl
  | cons m rest ih => rw [memberMeanings, ih, List.map_cons]

theorem meanings_eq (items : List Json) : meanings items = items.map meaning := by
  induction items with
  | nil => rfl
  | cons v rest ih => rw [meanings, ih, List.map_cons]

/-- The first name is below all others. -/
theorem Sorted.le_of_lookup {m : String × Json} {v : Json} (sorted : Sorted (m :: members))
    (found : (m :: members).lookup name = some v) : m.1 ≤ name := by
  have among := mem_of_lookup found
  rcases List.mem_cons.mp among with same | later
  · exact Std.le_of_eq (congrArg Prod.fst same.symm)
  · exact Std.le_of_lt ((List.pairwise_cons.mp sorted).1 _ later)

/-- The first name is there only once. -/
theorem Sorted.lookup_tail {m : String × Json} (sorted : Sorted (m :: members)) :
    members.lookup m.1 = none := by
  cases found : members.lookup m.1 with
  | none => rfl
  | some v =>
    have above := (List.pairwise_cons.mp sorted).1 _ (mem_of_lookup found)
    exact absurd above (String.lt_irrefl _)

/-- Sorted members are determined by what is looked up in them. -/
theorem Sorted.ext (sorted : Sorted members) (sorted' : Sorted members')
    (same : ∀ name, members.lookup name = members'.lookup name) : members = members' := by
  have at_first (m : String × Json) (rest : List (String × Json)) :
      (m :: rest).lookup m.1 = some m.2 := by
    rw [lookup_cons_eq, if_pos rfl]
  induction members generalizing members' with
  | nil =>
    cases members' with
    | nil => rfl
    | cons m' rest' => cases (same m'.1).trans (at_first m' rest')
  | cons m rest ih =>
    cases members' with
    | nil => cases (same m.1).symm.trans (at_first m rest)
    | cons m' rest' =>
      have names : m.1 = m'.1 := by
        apply Std.le_antisymm
        · exact sorted.le_of_lookup ((same m'.1).trans (at_first m' rest'))
        · exact sorted'.le_of_lookup ((same m.1).symm.trans (at_first m rest))
      have values : m.2 = m'.2 := by
        have first := same m.1
        rw [at_first, names, at_first] at first
        exact Option.some.inj first
      have others : rest = rest' := by
        refine ih (List.pairwise_cons.mp sorted).2 (List.pairwise_cons.mp sorted').2 ?_
        intro name
        by_cases first : name = m.1
        · rw [first, sorted.lookup_tail, names, sorted'.lookup_tail]
        · have later := same name
          rwa [lookup_cons_eq, if_neg first, lookup_cons_eq, if_neg (names ▸ first)] at later
      rw [Prod.ext names values, others]

/-- Sorted members are equal if and only if the same values are looked up in what was sorted. -/
theorem sortMembers_eq_iff : sortMembers members = sortMembers members' ↔
    ∀ name, members.reverse.lookup name = members'.reverse.lookup name := by
  constructor
  · intro same name
    rw [← lookup_sortMembers, same, lookup_sortMembers]
  · intro same
    apply (sorted_sortMembers members).ext (sorted_sortMembers members')
    intro name
    rw [lookup_sortMembers, lookup_sortMembers, same]

end Members

/-! ## Meanings and normal forms -/

/-- Lists have the same images under two functions that tell the same items apart. -/
theorem map_eq_map_iff {α β γ : Type} {f : α → β} {g : α → γ} {xs ys : List α}
    (each : ∀ x ∈ xs, ∀ y, f x = f y ↔ g x = g y) :
    xs.map f = ys.map f ↔ xs.map g = ys.map g := by
  induction xs generalizing ys with
  | nil => cases ys <;> simp
  | cons x xs ih =>
    cases ys with
    | nil => simp
    | cons y ys =>
      have first := each x List.mem_cons_self y
      have others : xs.map f = ys.map f ↔ xs.map g = ys.map g :=
        ih fun x among => each x (List.mem_cons_of_mem _ among)
      simp [first, others]

/-- Values denote the same if and only if they have the same normal form. -/
theorem meaning_eq_iff {v w : Json} : v.meaning = w.meaning ↔ v.normal = w.normal := by
  induction v using Json.induction generalizing w with
  | null | bool | number | text => cases w <;> simp [meaning, normal, ofMembers_eq]
  | array items ih =>
    cases w with
    | array items' =>
      have each : items.map meaning = items'.map meaning ↔ items.map normal = items'.map normal :=
        map_eq_map_iff fun v among w => ih v among
      simp [meaning, normal, meanings_eq, normalItems_eq, each]
    | _ => simp [meaning, normal, ofMembers_eq]
  | object members ih =>
    cases w with
    | object members' =>
      have each (name : String) :
          (members.reverse.lookup name).map meaning = (members'.reverse.lookup name).map meaning ↔
            (members.reverse.lookup name).map normal =
              (members'.reverse.lookup name).map normal := by
        cases found : members.reverse.lookup name with
        | none => cases members'.reverse.lookup name <;> simp
        | some v =>
          have among : (name, v) ∈ members := List.mem_reverse.mp (mem_of_lookup found)
          cases members'.reverse.lookup name with
          | none => simp
          | some w => simpa using ih (name, v) among
      rw [meaning, meaning, JsonMeaning.map.injEq, funext_iff, normal, normal, ofMembers_eq,
        ofMembers_eq, object.injEq, sortMembers_eq_iff]
      refine forall_congr' fun name => ?_
      simp only [memberMeanings_eq, normalMembers_eq, ← List.map_reverse, lookup_map]
      exact each name
    | _ => simp [meaning, normal, ofMembers_eq]

end Json

end GraphIngest
