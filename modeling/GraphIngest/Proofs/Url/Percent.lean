import GraphIngest.Url.Percent

/-!
# Encoded texts

A text whose percent signs are encoded can be decoded, so that different texts are encoded
differently. Characters that are encoded do not occur in what they are encoded to.

## Main definitions

* `Percent.decode_encode`: an encoded text stands for the bytes of the text.
* `Percent.encode_injective`: different texts are encoded differently.
* `Percent.notMem_encode`: encoded characters do not occur.
-/

namespace GraphIngest

namespace Percent

variable {set : Char → Bool} {cs ds : List Char}

/-! ## Decoding -/

theorem value?_hexDigit : ∀ n < 16, Digit.value? (hexDigit n) = some n := by decide

theorem decode_encodeByte (b : UInt8) (rest : List Char) :
    decode (encodeByte b ++ rest) = b :: decode rest := by
  have high : b.toNat / 16 < 16 := by have := b.toNat_lt; omega
  have low : b.toNat % 16 < 16 := by omega
  have whole : 16 * (b.toNat / 16) + b.toNat % 16 = b.toNat := by omega
  simp only [encodeByte, List.cons_append, List.nil_append, decode, value?_hexDigit _ high,
    value?_hexDigit _ low, whole, UInt8.ofNat_toNat]

theorem decode_encodeBytes (bytes : List UInt8) (rest : List Char) :
    decode (bytes.flatMap encodeByte ++ rest) = bytes ++ decode rest := by
  induction bytes with
  | nil => rfl
  | cons b bytes ih =>
    rw [List.flatMap_cons, List.append_assoc, decode_encodeByte, ih]
    rfl

theorem decode_cons {c : Char} (other : c ≠ '%') (rest : List Char) :
    decode (c :: rest) = String.utf8EncodeChar c ++ decode rest := by
  rw [decode]
  rintro _ _ _ rfl
  exact absurd rfl other

/-- An encoded text stands for the bytes of the text. -/
theorem decode_encode (percent : set '%') :
    decode (encode set cs) = cs.flatMap String.utf8EncodeChar := by
  induction cs with
  | nil => rfl
  | cons c cs ih =>
    rw [encode, List.flatMap_cons, List.flatMap_cons, encodeChar, ← encode]
    split
    · rw [decode_encodeBytes, ih]
    · next plain =>
      have other : c ≠ '%' := by rintro rfl; exact plain percent
      rw [List.cons_append, List.nil_append, decode_cons other, ih]

/-- The bytes of a text determine the text. -/
theorem utf8_injective (h : cs.flatMap String.utf8EncodeChar = ds.flatMap String.utf8EncodeChar) :
    cs = ds := by
  have bytes : cs.utf8Encode = ds.utf8Encode := congrArg List.toByteArray h
  have decoded := congrArg ByteArray.utf8Decode? bytes
  rw [List.utf8Decode?_utf8Encode, List.utf8Decode?_utf8Encode] at decoded
  exact congrArg Array.toList (Option.some.inj decoded)

/-- Different texts are encoded differently. -/
theorem encode_injective (percent : set '%') (h : encode set cs = encode set ds) : cs = ds :=
  utf8_injective (by rw [← decode_encode percent, h, decode_encode percent])

/-! ## Characters -/

theorem mem_encode {c : Char} (h : c ∈ encode set cs) :
    (c ∈ cs ∧ set c = false) ∨ c = '%' ∨ ∃ n < 16, c = hexDigit n := by
  obtain ⟨d, among, h⟩ := List.mem_flatMap.mp h
  rw [encodeChar] at h
  split at h
  · obtain ⟨b, -, h⟩ := List.mem_flatMap.mp h
    have := b.toNat_lt
    simp only [encodeByte, List.mem_cons, List.not_mem_nil, or_false] at h
    obtain rfl | rfl | rfl := h
    · exact .inr (.inl rfl)
    · exact .inr (.inr ⟨_, by omega, rfl⟩)
    · exact .inr (.inr ⟨_, by omega, rfl⟩)
  · next plain =>
    obtain rfl : c = d := by simpa using h
    exact .inl ⟨among, by simpa using plain⟩

/-- Characters that are encoded do not occur, unless they are what others are encoded with. -/
theorem notMem_encode {c : Char} (encoded : set c) (percent : c ≠ '%')
    (digit : ∀ n < 16, c ≠ hexDigit n) : c ∉ encode set cs := by
  intro h
  obtain ⟨-, plain⟩ | same | ⟨n, small, same⟩ := mem_encode h
  · simp [encoded] at plain
  · exact percent same
  · exact digit n small same

end Percent

end GraphIngest
