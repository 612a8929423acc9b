/-!
# Nesting

Data can be nested, and where it can change it may even be nested in itself. What goes down
into data keeps a `Nesting`: how deep it is, and which places of a workspace it is inside of.
It stops where it would enter a place again, and below `limit` levels.
-/

namespace EntityQuery

/-- A position inside nested data. -/
structure Nesting where
  /-- The number of levels around it. -/
  depth : Nat
  /-- The numbers of the places around it. -/
  entered : List Nat

namespace Nesting

/-- The greatest number of levels. -/
def limit : Nat := 255

/-- Outside of everything. -/
def outside : Nesting := ⟨0, []⟩

/-- One level further in. -/
def deeper (n : Nesting) : Nesting := { n with depth := n.depth + 1 }

/-- Inside a place. -/
def enter (n : Nesting) (number : Nat) : Nesting := { n with entered := number :: n.entered }

/-- Is there room for another level? -/
def hasRoom (n : Nesting) : Bool := n.depth < limit

/-- Is the position inside a place already? -/
def isInside (n : Nesting) (number : Nat) : Bool := n.entered.contains number

@[simp] theorem depth_deeper (n : Nesting) : n.deeper.depth = n.depth + 1 := rfl

@[simp] theorem depth_enter (n : Nesting) (number : Nat) : (n.enter number).depth = n.depth := rfl

end Nesting

end EntityQuery
