/-!
# Texts as bytes

UTF-8 is the only encoding the library knows: a byte string given where a text is wanted is
decoded with it, and a text given where bytes are wanted is encoded with it.

* `decode?_encode`: every text is recovered from its bytes.
* `encode_of_decode?`: a byte string that decodes is the encoding of the result, so the two
  notions correspond exactly.
-/

namespace EntityQuery.Text.Utf8

/-- The bytes of a text. -/
def encode (s : String) : List UInt8 := s.toByteArray.data.toList

/-- The text with the given bytes, if they are well-formed. -/
def decode? (bytes : List UInt8) : Option String := String.fromUTF8? ⟨bytes.toArray⟩

/-- Every text is recovered from its bytes. -/
@[simp] theorem decode?_encode (s : String) : decode? (encode s) = some s := by
  have h : (⟨s.toByteArray.data.toList.toArray⟩ : ByteArray) = s.toByteArray := by
    simp
  simp [decode?, encode, String.fromUTF8?, h, s.isValidUTF8, String.fromUTF8]

/-- A byte string that decodes is the encoding of the result. -/
theorem encode_of_decode? {bytes : List UInt8} {s : String} (h : decode? bytes = some s) :
    encode s = bytes := by
  simp only [decode?, String.fromUTF8?] at h
  split at h
  · simp only [Option.some.injEq] at h
    subst h
    simp [encode, String.fromUTF8]
  · simp at h

/-- Two texts with equal bytes are equal. -/
theorem encode_injective {s t : String} (h : encode s = encode t) : s = t := by
  have := decode?_encode t
  rw [← h, decode?_encode] at this
  exact Option.some.inj this

end EntityQuery.Text.Utf8
