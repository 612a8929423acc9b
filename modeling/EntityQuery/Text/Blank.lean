/-!
# Blank characters

The characters that may surround a number written as text: those with the Unicode property
*White_Space*. The set has twenty-five members; it is fixed by the standard's stability
policy, so the table is the whole definition.

* `isBlank` looks a character up in the table, and `trim` removes the blanks at both ends of a
  text.
-/

namespace EntityQuery.Text

/-- The code points with the property *White_Space*. -/
def blanks : List Nat :=
  [0x09, 0x0a, 0x0b, 0x0c, 0x0d, 0x20, 0x85, 0xa0, 0x1680,
   0x2000, 0x2001, 0x2002, 0x2003, 0x2004, 0x2005, 0x2006, 0x2007, 0x2008, 0x2009, 0x200a,
   0x2028, 0x2029, 0x202f, 0x205f, 0x3000]

/-- Is the character a blank? -/
def isBlank (c : Char) : Bool := blanks.contains c.toNat

/-- The text without the blanks at its two ends. -/
def trim (cs : List Char) : List Char :=
  ((cs.dropWhile isBlank).reverse.dropWhile isBlank).reverse

end EntityQuery.Text
