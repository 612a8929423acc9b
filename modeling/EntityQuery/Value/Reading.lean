import EntityQuery.Text.Hex
import EntityQuery.Text.Utf8
import EntityQuery.Value.Arithmetic

/-!
# Reading numbers and bytes from values

A floating-point number is made from a number, or from a text or bytes that spell one; bytes are
made from a text of hexadecimal digits. Other values are refused by their type, and texts that
do not fit by their description or by the position where that shows.
-/

namespace EntityQuery

/-- The text that bytes are if they spell a number: ASCII, without separators. -/
def numberText? (bytes : List UInt8) : Option String :=
  if bytes.all fun b => b < 0x80 && !(0x1c ≤ b && b ≤ 0x1f) then Text.Utf8.decode? bytes else none

/-- The text that a value spells a number with, if it can spell one at all. -/
def Value.numberText? (v : Value) : Option (Option String) :=
  match v.content with
  | .bytes b => some (EntityQuery.numberText? b)
  | v => v.asText?.map some

/-- The floating-point number that a value is or spells; a not-a-number that is read gets the
given mark. -/
def Value.toFloat (mark : Nat) (v : Value) : Except Failure Binary64 :=
  match v.asFloat, v.numberText? with
  | some x, _ => x
  | Option.none, some s =>
      match s.bind (Binary64.read? mark) with
      | some x => .ok x
      | Option.none => do .error (.notFloat (← v.describe))
  | Option.none, Option.none => .error (.numberExpected v.typeName)

/-- The bytes that a value spells in hexadecimal digits. -/
def Value.unhex (v : Value) : Except Failure (List UInt8) :=
  match v.asText? with
  | some s =>
      match Text.Hex.decode s.toList with
      | .ok b => .ok b
      | .error position => .error (.notHexadecimal position)
  | Option.none => .error (.hexadecimalExpected (if v.isNone then "None" else v.typeName))

/-- What bytes are written as in hexadecimal digits is read as these bytes. -/
theorem Value.unhex_encode (bytes : List UInt8) :
    (Value.text (String.ofList (Text.Hex.encode bytes))).unhex = .ok bytes := by
  simp [unhex, asText?, Text.Hex.decode_encode]

end EntityQuery
