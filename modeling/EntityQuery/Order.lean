import EntityQuery.Message.Make

/-!
# Sort keys and distinct-on properties

Orders and groups are recorded in compiled form, so they are compiled when they are given to a
builder and without a namespace.
-/

namespace EntityQuery

/-- The compiled form of an order. -/
def Order.compile (property direction : Value) : Except Failure PropertyOrder := do
  let reference ← PropertyReference.make property
  PropertyOrder.make reference direction

/-- The compiled form of a group. -/
def Group.compile (property : Value) : Except Failure PropertyReference :=
  PropertyReference.make property

end EntityQuery
