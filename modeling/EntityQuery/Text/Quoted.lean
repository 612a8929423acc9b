import EntityQuery.Text.Printable

/-!
# Quoted texts

How a text and a byte string are written where a value is described: between two equal
quotation marks, with a backslash before what would end the text or could not be seen.

* The mark is an apostrophe, unless the text holds an apostrophe and no double quote
  (`quotationMark`); so at most one kind of mark is ever escaped, and only when both occur.
* The backslash, the mark in use, line feed, carriage return and tab have two-character
  escapes; every other unprintable character is written in hexadecimal, with two, four or
  eight digits after `x`, `u` or `U`.
* A byte string is written the same way behind a `b`; a byte outside printable ASCII takes
  two hexadecimal digits.
-/

namespace EntityQuery.Text

/-- The apostrophe. -/
def apostrophe : Char := '\x27'

/-- The double quote. -/
def doubleQuote : Char := '\x22'

/-- The backslash. -/
def backslash : Char := '\x5c'

/-- A number in lower-case hexadecimal, with leading zeros up to the given width. -/
def hexadecimal (width n : Nat) : List Char :=
  let digits := Nat.toDigits 16 n
  List.replicate (width - digits.length) '0' ++ digits

/-- The mark a text is quoted with. -/
def quotationMark (cs : List Char) : Char :=
  if cs.contains apostrophe && !cs.contains doubleQuote then doubleQuote else apostrophe

/-- An unprintable character in hexadecimal, in the shortest of the three widths. -/
def escapeCode (n : Nat) : List Char :=
  if n < 0x100 then [backslash, 'x'] ++ hexadecimal 2 n
  else if n < 0x10000 then [backslash, 'u'] ++ hexadecimal 4 n
  else [backslash, 'U'] ++ hexadecimal 8 n

/-- One character inside a text quoted with `mark`. -/
def escapeChar (mark c : Char) : List Char :=
  if c = mark ∨ c = backslash then [backslash, c]
  else if c = '\n' then [backslash, 'n']
  else if c = '\r' then [backslash, 'r']
  else if c = '\t' then [backslash, 't']
  else if isPrintable c then [c]
  else escapeCode c.toNat

/-- A text between quotation marks. -/
def quote (s : String) : String :=
  let cs := s.toList
  let mark := quotationMark cs
  String.ofList (mark :: cs.flatMap (escapeChar mark) ++ [mark])

/-- One byte inside a byte string quoted with `mark`: the ASCII characters as in a text,
every other byte in hexadecimal. -/
def escapeByte (mark : Char) (b : UInt8) : List Char :=
  if b < 0x80 then escapeChar mark (Char.ofNat b.toNat) else escapeCode b.toNat

/-- A byte string between quotation marks, behind a `b`. -/
def quoteBytes (bytes : List UInt8) : String :=
  let mark := quotationMark (bytes.map fun b => Char.ofNat b.toNat)
  String.ofList ('b' :: mark :: bytes.flatMap (escapeByte mark) ++ [mark])

end EntityQuery.Text
