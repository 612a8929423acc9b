/-!
# Hexadecimal text

Bytes as pairs of hexadecimal digits, in either case of letters. Between the pairs, but not
within one, there may be blanks, for which only those of ASCII count.

* `decode` reads such a text, or gives the position of the first character that does not fit.
  Where a text ends within a pair, that is the position of its end; and a character outside
  ASCII comes before everything else.
* `encode` writes bytes without blanks, and `decode_encode` says that reading gives them back.
-/

namespace EntityQuery.Text.Hex

/-- The value of a hexadecimal digit. -/
def digitValue? (c : Char) : Option Nat :=
  if '0' ≤ c ∧ c ≤ '9' then some (c.toNat - '0'.toNat)
  else if 'a' ≤ c ∧ c ≤ 'f' then some (c.toNat - 'a'.toNat + 10)
  else if 'A' ≤ c ∧ c ≤ 'F' then some (c.toNat - 'A'.toNat + 10)
  else none

/-- Is the character a blank of ASCII? -/
def isBlank (c : Char) : Bool := c == ' ' || (9 ≤ c.toNat && c.toNat ≤ 13)

/-- The bytes that pairs of digits stand for, the first of which is at the given position. -/
def decodePairs (position : Nat) : List Char → Except Nat (List UInt8)
  | [] => .ok []
  | [c] => if isBlank c then .ok [] else
      .error (if (digitValue? c).isSome then position + 1 else position)
  | c :: d :: rest =>
      if isBlank c then decodePairs (position + 1) (d :: rest)
      else match digitValue? c, digitValue? d with
        | some high, some low => do
            return UInt8.ofNat (16 * high + low) :: (← decodePairs (position + 2) rest)
        | some _, none => .error (position + 1)
        | none, _ => .error position

/-- The bytes that a text stands for, or the position of its first character that does not
fit. -/
def decode (cs : List Char) : Except Nat (List UInt8) :=
  match cs.findIdx? fun c => 0x80 ≤ c.toNat with
  | some position => .error position
  | none => decodePairs 0 cs

/-- The two digits of a byte. -/
def encodeByte (b : UInt8) : List Char :=
  [Nat.digitChar (b.toNat / 16), Nat.digitChar (b.toNat % 16)]

/-- The text of bytes. -/
def encode (bytes : List UInt8) : List Char := bytes.flatMap encodeByte

/-- The digits of a byte are no blanks and have the values that make it up. -/
theorem digitValue?_digitChar {n : Nat} (h : n < 16) :
    digitValue? (Nat.digitChar n) = some n ∧ isBlank (Nat.digitChar n) = false ∧
      (Nat.digitChar n).toNat < 0x80 := by
  revert h n
  decide

/-- Reading gives back the bytes that were written, wherever the text starts. -/
theorem decodePairs_encode (position : Nat) (bytes : List UInt8) :
    decodePairs position (encode bytes) = .ok bytes := by
  induction bytes generalizing position with
  | nil => rfl
  | cons b rest ih =>
    have size : b.toNat < 256 := b.toNat_lt
    have high := digitValue?_digitChar (n := b.toNat / 16) (by omega)
    have low := digitValue?_digitChar (n := b.toNat % 16) (by omega)
    have joined : 16 * (b.toNat / 16) + b.toNat % 16 = b.toNat := by omega
    have split : encode (b :: rest) =
        Nat.digitChar (b.toNat / 16) :: Nat.digitChar (b.toNat % 16) :: encode rest := rfl
    rw [split, decodePairs, high.2.1, high.1, low.1, ih]
    show Except.ok (UInt8.ofNat (16 * (b.toNat / 16) + b.toNat % 16) :: rest) = _
    rw [joined, UInt8.ofNat_toNat]

/-- The text of bytes is in ASCII. -/
theorem toNat_lt_of_mem_encode {bytes : List UInt8} {c : Char} (h : c ∈ encode bytes) :
    c.toNat < 0x80 := by
  obtain ⟨b, -, hc⟩ := List.mem_flatMap.1 h
  have size : b.toNat < 256 := b.toNat_lt
  simp only [encodeByte, List.mem_cons, List.not_mem_nil, or_false] at hc
  rcases hc with rfl | rfl
  · exact (digitValue?_digitChar (by omega)).2.2
  · exact (digitValue?_digitChar (by omega)).2.2

/-- Reading gives back the bytes that were written. -/
theorem decode_encode (bytes : List UInt8) : decode (encode bytes) = .ok bytes := by
  have ascii : (encode bytes).findIdx? (fun c => decide (0x80 ≤ c.toNat)) = none :=
    List.findIdx?_eq_none_iff.2 fun c h => by
      have := toNat_lt_of_mem_encode h
      simpa using this
  simp only [decode, ascii, decodePairs_encode]

end EntityQuery.Text.Hex
