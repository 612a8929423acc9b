/-!
# URL-safe base64

Bytes travel in a message body as base64 text over the URL-safe alphabet: three bytes become
four characters of six bits each, and a final group of one or two bytes is filled up with the
padding character `=`.

* `encode` writes, `decode?` reads; the reader takes exactly padded text, and refuses a last
  group whose unused bits are not zero.
* `decode?_encode`: every byte string is read back from what is written for it.
-/

namespace EntityQuery.Text.Base64

/-- The sixty-four digits in the order of their values. -/
def alphabet : List Char :=
  "ABCDEFGHIJKLMNOPQRSTUVWXYZabcdefghijklmnopqrstuvwxyz0123456789-_".toList

/-- The digit of a six-bit value; a greater number counts modulo 64. -/
def digit (n : Nat) : Char := alphabet.getD (n % 64) 'A'

/-- The value of a digit. -/
def value? (c : Char) : Option Nat := alphabet.idxOf? c

/-- The padding character. -/
def padding : Char := '='

/-- The text of a byte string, group by group. -/
def encodeChars : List UInt8 → List Char
  | [] => []
  | [a] => [digit (a.toNat / 4), digit (a.toNat % 4 * 16), padding, padding]
  | [a, b] =>
      [digit (a.toNat / 4), digit (a.toNat % 4 * 16 + b.toNat / 16),
        digit (b.toNat % 16 * 4), padding]
  | a :: b :: c :: rest =>
      digit (a.toNat / 4) :: digit (a.toNat % 4 * 16 + b.toNat / 16) ::
        digit (b.toNat % 16 * 4 + c.toNat / 64) :: digit (c.toNat % 64) :: encodeChars rest

/-- The text of a byte string. -/
def encode (bytes : List UInt8) : String := String.ofList (encodeChars bytes)

/-- The bytes of a text, group by group. -/
def decodeChars? : List Char → Option (List UInt8)
  | [] => some []
  | p :: q :: r :: s :: rest =>
      if s = padding then
        if rest.isEmpty then
          if r = padding then do
            let x ← value? p
            let y ← value? q
            if y % 16 = 0 then some [UInt8.ofNat (x * 4 + y / 16)] else none
          else do
            let x ← value? p
            let y ← value? q
            let z ← value? r
            if z % 4 = 0 then
              some [UInt8.ofNat (x * 4 + y / 16), UInt8.ofNat (y % 16 * 16 + z / 4)]
            else none
        else none
      else do
        let x ← value? p
        let y ← value? q
        let z ← value? r
        let w ← value? s
        let bytes ← decodeChars? rest
        some (UInt8.ofNat (x * 4 + y / 16) :: UInt8.ofNat (y % 16 * 16 + z / 4) ::
          UInt8.ofNat (z % 4 * 64 + w) :: bytes)
  | _ => none

/-- The bytes of a text, if it is the text of any. -/
def decode? (s : String) : Option (List UInt8) := decodeChars? s.toList

/-- The value of a digit is the number it was made for. -/
theorem value?_digit {n : Nat} (h : n < 64) : value? (digit n) = some n := by
  have all : ∀ m : Fin 64, value? (digit m) = some m.val := by decide +kernel
  exact all ⟨n, h⟩

/-- No digit is the padding character. -/
theorem digit_ne_padding {n : Nat} (h : n < 64) : digit n ≠ padding := by
  have all : ∀ m : Fin 64, digit m ≠ padding := by decide +kernel
  exact all ⟨n, h⟩

private theorem ofNat_eq {b : UInt8} {n : Nat} (h : n = b.toNat) : UInt8.ofNat n = b := by
  subst h
  simp

theorem decodeChars?_encodeChars (bytes : List UInt8) :
    decodeChars? (encodeChars bytes) = some bytes := by
  induction bytes using encodeChars.induct with
  | case1 => rfl
  | case2 a =>
    have ha := a.toNat_lt
    simp [-UInt8.ofNat_add, -UInt8.ofNat_mul, encodeChars, decodeChars?,
      value?_digit (n := a.toNat / 4) (by omega),
      value?_digit (n := a.toNat % 4 * 16) (by omega)]
    exact ofNat_eq (by omega)
  | case3 a b =>
    have ha := a.toNat_lt
    have hb := b.toNat_lt
    have hp : digit (b.toNat % 16 * 4) ≠ padding := digit_ne_padding (by omega)
    simp [-UInt8.ofNat_add, -UInt8.ofNat_mul, encodeChars, decodeChars?, hp,
      value?_digit (n := a.toNat / 4) (by omega),
      value?_digit (n := a.toNat % 4 * 16 + b.toNat / 16) (by omega),
      value?_digit (n := b.toNat % 16 * 4) (by omega)]
    exact ⟨ofNat_eq (by omega), ofNat_eq (by omega)⟩
  | case4 a b c rest ih =>
    have ha := a.toNat_lt
    have hb := b.toNat_lt
    have hc := c.toNat_lt
    have hp : digit (c.toNat % 64) ≠ padding := digit_ne_padding (by omega)
    simp [-UInt8.ofNat_add, -UInt8.ofNat_mul, encodeChars, decodeChars?, hp, ih,
      value?_digit (n := a.toNat / 4) (by omega),
      value?_digit (n := a.toNat % 4 * 16 + b.toNat / 16) (by omega),
      value?_digit (n := b.toNat % 16 * 4 + c.toNat / 64) (by omega),
      value?_digit (n := c.toNat % 64) (by omega)]
    exact ⟨ofNat_eq (by omega), ofNat_eq (by omega), ofNat_eq (by omega)⟩

/-- Every byte string is read back from what is written for it. -/
theorem decode?_encode (bytes : List UInt8) : decode? (encode bytes) = some bytes := by
  simp [decode?, encode, decodeChars?_encodeChars]

end EntityQuery.Text.Base64
