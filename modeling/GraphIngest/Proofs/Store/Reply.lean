import GraphIngest.Proofs.Json.Record
import GraphIngest.Store.Result

/-!
# What a reply says

The messages and the identity in a reply are read through several records, most parts of which may
be absent or null. Here they are found in the text itself.

## Main definitions

* `Draft.given?`: what stands in the place of a field, unless it is null.
* `Draft.messages`, `Draft.ownId?`: the messages and the identity in an entry of an answer.
* `ObjectReply.messages_of_read`, `ObjectReply.id_of_read`: they are what a reply is read as.
* `ObjectReply.Reads`: the entries of a whole answer; `ObjectReply.results_of_run` gives the results
  in them.
-/

namespace GraphIngest

namespace Draft

/-- What stands in the place of a field, unless it is null. -/
def given? (place : Nat) (name : String) (d : Draft) : Option Draft :=
  match d.field? place name with
  | some .null => none
  | found => found

/-- The items of a list. -/
def listed : Draft → List Draft
  | .array items _ => items
  | _ => []

/-- The message of an error. -/
def message (d : Draft) : String := ((d.field? 0 "message").bind text?).getD ""

/-- The messages of the errors that are listed, if there is a list. -/
def listedMessages (d : Draft) : List String :=
  match d.field? 0 "error" with
  | none => []
  | some list => list.listed.map message

/-- The messages of the errors in a result, if there are errors. -/
def resultMessages (d : Draft) : List String :=
  match d.given? 0 "errors" with
  | none => []
  | some errors => errors.listedMessages

/-- The messages in an entry of an answer. There are none if anything is absent or null on the way
to them. -/
def messages (entry : Draft) : List String :=
  match entry.given? 1 "result" with
  | none => []
  | some result => result.resultMessages

/-- The identity in an entry of an answer. -/
def ownId? (entry : Draft) : Option String := (entry.given? 0 "id").bind text?

end Draft

/-! ## Fields that may be null -/

namespace RecordFormat

variable {α : Type} {room place : Nat} {name : String} {d : Draft}

theorem Holds.given {read : JsonReader α} {held : Option (Option α)}
    (h : Holds (.optional read) room (d.field? place name) held) :
    Holds read room (d.given? place name) (held.getD none) := by
  unfold Draft.given?
  cases found : d.field? place name with
  | none =>
    rw [found] at h
    obtain rfl : held = none := h
    rfl
  | some d' =>
    rw [found] at h
    obtain ⟨v, nullable, rfl⟩ := h
    obtain ⟨rfl, rfl⟩ | ⟨not_null, a, value, rfl⟩ := JsonReader.optional_eq_ok.mp nullable
    · rfl
    · cases d' with
      | null => exact absurd rfl not_null
      | _ => exact ⟨a, value, rfl⟩

theorem Holds.text {held : Option String} {found : Option Draft}
    (h : Holds JsonReader.text room found held) : held = found.bind Draft.text? := by
  cases found with
  | none => exact h
  | some d =>
    obtain ⟨s, value, rfl⟩ := h
    exact (JsonReader.text_eq_ok.mp value).symm

end RecordFormat

/-! ## The records of a reply -/

open RecordFormat

theorem ErrorMessage.slot : Slot format 0 "message" .text Partial.message
    fun p v => { p with message := some v } :=
  .of_single rfl rfl (fun _ _ => rfl) fun _ => leaves_skip

theorem ErrorList.slot : Slot format 0 "error" (.list ErrorMessage.format.read) Partial.errors
    fun p v => { p with errors := some v } :=
  .of_single rfl rfl (fun _ _ => rfl) fun _ => leaves_skip

theorem ReplyBody.slot : Slot format 0 "errors" (.optional ErrorList.format.read) Partial.errors
    fun p v => { p with errors := some v } :=
  .of_single rfl rfl (fun _ _ => rfl) fun _ => leaves_skip

theorem ObjectReply.idSlot : Slot format 0 "id" (.optional .text) Partial.id
    fun p v => { p with id := some v } where
  at_place := ⟨[], _, rfl, rfl, by simp, by
    simp only [List.mem_singleton, forall_eq]
    exact ⟨by decide, leaves_of fun _ _ => rfl⟩⟩
  empty := rfl
  put _ _ := rfl
  other _ := leaves_skip

theorem ObjectReply.resultSlot : Slot format 1 "result" (.optional ReplyBody.format.read)
    Partial.result fun p v => { p with result := some v } where
  at_place := ⟨[_], [], rfl, rfl, by
    simp only [List.mem_singleton, forall_eq]
    exact ⟨by decide, leaves_of fun _ _ => rfl⟩, by simp⟩
  empty := rfl
  put _ _ := rfl
  other _ := leaves_skip

section Read

variable {room : Nat} {d : Draft}

theorem ErrorMessage.message_of_read {m : ErrorMessage} (h : format.read room d = .ok m) :
    m.message = d.message := by
  obtain ⟨left, p, absent, -, filled, complete⟩ := exists_filled_of_read h
  obtain ⟨s, required, complete⟩ := Except.bind_eq_ok.mp complete
  obtain rfl := Except.ok.inj complete
  have held := (slot.holds filled).text
  cases given : p.message with
  | none => simp [given, require] at required
  | some s' =>
    obtain rfl : s' = s := by simpa [given, require] using required
    simp [Draft.message, ← held, given]

theorem ErrorList.messages_of_read {list : ErrorList} (h : format.read room d = .ok list) :
    list.errors.map (·.message) = d.listedMessages := by
  obtain ⟨left, p, absent, -, filled, complete⟩ := exists_filled_of_read h
  obtain rfl := Except.ok.inj complete
  have held := slot.holds filled
  unfold Draft.listedMessages
  cases found : d.field? 0 "error" with
  | none =>
    rw [found] at held
    simp [show p.errors = none from held]
  | some d' =>
    rw [found] at held
    obtain ⟨errors, value, given⟩ := held
    obtain ⟨ds, ending, left, -, rfl, -, items⟩ := JsonReader.list_eq_ok value
    rw [given]
    exact JsonReader.map_eq_of_items (fun _ _ => ErrorMessage.message_of_read) items

theorem ReplyBody.messages_of_read {body : ReplyBody} (h : format.read room d = .ok body) :
    ObjectReply.messages ⟨none, some body⟩ = d.resultMessages := by
  obtain ⟨left, p, absent, -, filled, complete⟩ := exists_filled_of_read h
  obtain rfl := Except.ok.inj complete
  have held := (slot.holds filled).given
  unfold Draft.resultMessages
  cases found : d.given? 0 "errors" with
  | none =>
    rw [found] at held
    simp [ObjectReply.messages, show p.errors.getD none = none from held]
  | some errors =>
    rw [found] at held
    obtain ⟨list, value, given⟩ := held
    simpa [ObjectReply.messages, given] using ErrorList.messages_of_read value

namespace ObjectReply

theorem holds_of_read {reply : ObjectReply} (h : format.read room d = .ok reply) :
    ∃ left, Holds .text left (d.given? 0 "id") reply.id ∧
      Holds ReplyBody.format.read left (d.given? 1 "result") reply.result := by
  obtain ⟨left, p, absent, -, filled, complete⟩ := exists_filled_of_read h
  obtain rfl := Except.ok.inj complete
  exact ⟨left, (idSlot.holds filled).given, (resultSlot.holds filled).given⟩

/-- A reply names the object that its entry names. -/
theorem id_of_read {reply : ObjectReply} (h : format.read room d = .ok reply) :
    reply.id = d.ownId? := by
  obtain ⟨left, id, -⟩ := holds_of_read h
  exact id.text

/-- A reply has the messages that are in its entry. -/
theorem messages_of_read {reply : ObjectReply} (h : format.read room d = .ok reply) :
    reply.messages = d.messages := by
  obtain ⟨left, -, held⟩ := holds_of_read h
  unfold Draft.messages
  cases found : d.given? 1 "result" with
  | none =>
    rw [found] at held
    simp [messages, show reply.result = none from held]
  | some result =>
    rw [found] at held
    obtain ⟨body, value, given⟩ := held
    have same : reply.messages = messages ⟨none, some body⟩ := by simp [messages, given]
    exact same.trans (ReplyBody.messages_of_read value)

end ObjectReply

end Read

/-! ## Whole answers -/

namespace ObjectReply

/-- Whether a text is read, as a whole, as the array of some entries. -/
def Reads (bytes : List Symbol) (entries : List Draft) : Prop :=
  (∃ replies, readAll.run bytes = .ok replies) ∧
    ∃ ending, (Draft.build (JsonToken.tokens bytes)).1 = .array entries ending

theorem Reads.unique {bytes : List Symbol} {entries entries' : List Draft}
    (h : Reads bytes entries) (h' : Reads bytes entries') : entries = entries' := by
  obtain ⟨-, ending, built⟩ := h
  obtain ⟨-, ending', built'⟩ := h'
  rw [built] at built'
  injection built'

/-- What an entry says about the object in its place, which has no name if there is none. -/
def resultAt (submitted : List String) (i : Nat) (entry : Draft) : ObjectResult :=
  ⟨entry.ownId?.getD (submitted[i]?.getD ""), entry.messages⟩

theorem getElem?_toResults (submitted : List String) (replies : List ObjectReply) (i : Nat) :
    (toResults submitted replies)[i]? =
      replies[i]?.map (toResult (submitted[i]?.getD "")) := by
  induction replies generalizing submitted i with
  | nil => cases submitted <;> simp [toResults]
  | cons r rest ih =>
    cases submitted with
    | nil => cases i <;> simp [toResults, ih]
    | cons id ids => cases i <;> simp [toResults, ih]

/-- The results in an answer are those of its entries in their places. -/
theorem results_of_run (submitted : List String) {bytes : List Symbol}
    {replies : List ObjectReply} (h : readAll.run bytes = .ok replies) :
    ∃ entries, Reads bytes entries ∧
      toResults submitted replies = entries.mapIdx (resultAt submitted) := by
  obtain ⟨entries, ending, left, -, built, -, items⟩ :=
    JsonReader.list_eq_ok (JsonReader.run_eq_ok h)
  refine ⟨entries, ⟨⟨replies, h⟩, ending, built⟩, List.ext_getElem? fun i => ?_⟩
  have parts : replies.map (fun r => (r.id, r.messages)) =
      entries.map fun e => (e.ownId?, e.messages) :=
    JsonReader.map_eq_of_items
      (fun d r read => Prod.ext (id_of_read read) (messages_of_read read)) items
  have part := congrArg (fun l => l[i]?.map fun x : Option String × List String =>
    ObjectResult.mk (x.1.getD (submitted[i]?.getD "")) x.2) parts
  simp only [List.getElem?_map, Option.map_map] at part
  rw [getElem?_toResults, List.getElem?_mapIdx]
  exact part

end ObjectReply

end GraphIngest
