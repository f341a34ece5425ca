import GraphIngest.Config.Document
import GraphIngest.Proofs.Toml.Document

/-!
# Settings are read back from their document

## Main definitions

* `Settings.Writable`: whether a document can hold settings.
* `Settings.lines`: the lines that settings are written on.
* `Settings.ofDocument_toDocument`: settings that are written are read back.
-/

namespace GraphIngest

/-! ## Numbers -/

namespace TomlItem

theorem nat_int {n greatest : Nat} (small : n ≤ greatest) (expected : String) :
    nat greatest expected (.scalar (.int n)) = .ok n := by
  simp [nat, small]

theorem uint16_int (n : UInt16) : uint16 (.scalar (.int n.toNat)) = .ok n := by
  have small : n.toNat ≤ UInt16.size - 1 := Nat.le_pred_of_lt n.toNat_lt
  rw [uint16, nat_int small]
  exact congrArg Except.ok UInt16.ofNat_toNat

theorem uint32_int (n : UInt32) : uint32 (.scalar (.int n.toNat)) = .ok n := by
  have small : n.toNat ≤ UInt32.size - 1 := Nat.le_pred_of_lt n.toNat_lt
  rw [uint32, nat_int small]
  exact congrArg Except.ok UInt32.ofNat_toNat

theorem uint64_int (n : UInt64) : uint64 (.scalar (.int n.toNat)) = .ok n := by
  have small : n.toNat ≤ UInt64.size - 1 := Nat.le_pred_of_lt n.toNat_lt
  rw [uint64, nat_int small]
  exact congrArg Except.ok UInt64.ofNat_toNat

end TomlItem

theorem Toml.uint16_le_greatestInt (n : UInt16) : n.toNat ≤ greatestInt :=
  Nat.le_trans (Nat.le_of_lt n.toNat_lt) (by decide)

theorem Toml.uint32_le_greatestInt (n : UInt32) : n.toNat ≤ greatestInt :=
  Nat.le_trans (Nat.le_of_lt n.toNat_lt) (by decide)

namespace Settings

/-! ## Lines -/

/-- Whether a document can hold settings: those of their numbers that may be too great are not. -/
structure Writable (s : Settings) : Prop where
  readyDelay : s.readyDelay.toNat ≤ Toml.greatestInt
  requestTimeout : s.requestTimeout.toNat ≤ Toml.greatestInt

variable {s : Settings}

/-- The lines that settings are written on. -/
def lines (writable : s.Writable) : List Toml.Line := [
  .ofNat (Toml.uint16_le_greatestInt s.listenPort) "listen_port" (by decide),
  .ofText s.storeHost "store_host" (by decide),
  .ofNat (Toml.uint16_le_greatestInt s.storePort) "store_port" (by decide),
  .ofText s.storeScheme "store_scheme" (by decide),
  .ofNat (Toml.uint32_le_greatestInt s.readyAttempts) "ready_attempts" (by decide),
  .ofNat writable.readyDelay "ready_delay_secs" (by decide),
  .ofNat writable.requestTimeout "request_timeout_secs" (by decide)]

theorem toList_toString (n : Nat) : (toString n).toList = Nat.toDigits 10 n := by
  rw [Nat.toString_eq_repr, Nat.repr_eq_ofList_toDigits, String.toList_ofList]

theorem entryLine_ofNat {n : Nat} (small : n ≤ Toml.greatestInt) (name : String)
    (bare : Toml.Bare name) :
    (entryLine name (toString n)).toList = (Toml.Line.ofNat small name bare).chars := by
  simp only [entryLine, String.toList_append, toList_toString]
  simp [Toml.Line.chars, Toml.Line.ofNat]

theorem entryLine_ofText (s name : String) (bare : Toml.Bare name) :
    (entryLine name (Toml.quote s)).toList = (Toml.Line.ofText s name bare).chars := by
  simp [entryLine, Toml.Line.chars, Toml.Line.ofText, Toml.quote]

/-- Settings are written on their lines if a document can hold them. -/
theorem toDocument_of_writable (writable : s.Writable) :
    s.toDocument = some (String.ofList ((lines writable).flatMap Toml.Line.chars)) := by
  have small : s.readyDelay.toNat ≤ 9223372036854775807 ∧
      s.requestTimeout.toNat ≤ 9223372036854775807 := ⟨writable.readyDelay, writable.requestTimeout⟩
  rw [toDocument, if_pos small]
  have sixteen (n : UInt16) : toString n = toString n.toNat := rfl
  have thirtyTwo (n : UInt32) : toString n = toString n.toNat := rfl
  have sixtyFour (n : UInt64) : toString n = toString n.toNat := rfl
  refine congrArg some (String.toList_injective ?_)
  simp only [String.toList_append, String.toList_ofList, sixteen, thirtyTwo, sixtyFour]
  rw [entryLine_ofNat (Toml.uint16_le_greatestInt s.listenPort) "listen_port" (by decide),
    entryLine_ofText s.storeHost "store_host" (by decide),
    entryLine_ofNat (Toml.uint16_le_greatestInt s.storePort) "store_port" (by decide),
    entryLine_ofText s.storeScheme "store_scheme" (by decide),
    entryLine_ofNat (Toml.uint32_le_greatestInt s.readyAttempts) "ready_attempts" (by decide),
    entryLine_ofNat writable.readyDelay "ready_delay_secs" (by decide),
    entryLine_ofNat writable.requestTimeout "request_timeout_secs" (by decide)]
  simp [lines]

/-- Other settings are not written. -/
theorem toDocument_of_not_writable (unwritable : ¬s.Writable) : s.toDocument = none :=
  if_neg fun small => unwritable ⟨small.1, small.2⟩

/-! ## Reading -/

theorem foldlM_entries (writable : s.Writable) :
    ((lines writable).map Toml.Line.entry).foldlM Partial.setEntry {} =
      .ok ⟨s.listenPort, s.storeHost, s.storePort, s.storeScheme, s.readyAttempts, s.readyDelay,
        s.requestTimeout⟩ := by
  simp only [lines, List.map_cons, List.map_nil, Toml.Line.entry, Toml.Line.ofNat, Toml.Line.ofText,
    List.foldlM_cons, List.foldlM_nil, Partial.setEntry, TomlItem.uint16_int, TomlItem.uint32_int,
    TomlItem.uint64_int]
  rfl

/-- Settings that are written are read back. -/
theorem ofDocument_toDocument {text : String} (written : s.toDocument = some text) :
    ofDocument text = .ok s := by
  have writable : s.Writable := by
    refine Classical.byContradiction fun unwritable => ?_
    rw [toDocument_of_not_writable unwritable] at written
    cases written
  have distinct : ((lines writable).map Toml.Line.name).Nodup := by
    have names : (lines writable).map Toml.Line.name = ["listen_port", "store_host", "store_port",
      "store_scheme", "ready_attempts", "ready_delay_secs", "request_timeout_secs"] := rfl
    rw [names]
    decide
  obtain rfl := Option.some.inj (written.symm.trans (toDocument_of_writable writable))
  rw [ofDocument, Toml.read?_lines distinct]
  simp only [foldlM_entries]
  rfl

end Settings

end GraphIngest
