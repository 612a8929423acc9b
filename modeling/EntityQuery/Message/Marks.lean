import EntityQuery.Message

/-!
# Marks in messages

A message that can be met again has a mark for each container in it: for the mapping of every
property filter and for the parts of every composite filter. Messages that are put together
from others share their containers, and so their marks.

* `Message.settle` gives fresh marks to all containers of a message that have none yet, counting
  up from a number that is above all marks in use, and returns the next free one.
* A container keeps the mark it has, so settling twice is settling once
  (`Filter.settle_settled`).
-/

namespace EntityQuery

variable {α : Type}

/-- The mark of a container, fresh if it has none, and the next free one. -/
def settleMark (next : Nat) : Option Nat → Option Nat × Nat
  | some mark => (some mark, next)
  | none => (some next, next + 1)

/-- A property filter with a mark. -/
def PropertyFilter.settle (next : Nat) (m : PropertyFilter α) : PropertyFilter α × Nat :=
  let (mark, next) := settleMark next m.mark
  ({ m with mark }, next)

mutual

/-- A filter with marks for all of its containers. -/
def Filter.settle (next : Nat) : Filter α → Filter α × Nat
  | .property m =>
      let (m, next) := m.settle next
      (.property m, next)
  | .composite op filters mark =>
      let (mark, next) := settleMark next mark
      let (filters, next) := settleFilters next filters
      (.composite op filters mark, next)
termination_by structural f => f

/-- Filters with marks for all of their containers. -/
def settleFilters (next : Nat) : List (Filter α) → List (Filter α) × Nat
  | [] => ([], next)
  | f :: rest =>
      let (f, next) := f.settle next
      let (rest, next) := settleFilters next rest
      (f :: rest, next)
termination_by structural filters => filters

end

/-- A compiled query with marks for all of its containers. -/
def QueryMessage.settle (next : Nat) (m : QueryMessage α) : QueryMessage α × Nat :=
  match m.filter with
  | some f =>
      let (f, next) := f.settle next
      ({ m with filter := some f }, next)
  | none => (m, next)

/-- A message with marks for all of its containers. It is settled when it gets a place, so that all
who refer to it share its containers. -/
def Message.settle (next : Nat) : Message α → Message α × Nat
  | .propertyFilter m =>
      let (m, next) := m.settle next
      (.propertyFilter m, next)
  | .compositeFilter m =>
      let (mark, next) := settleMark next m.mark
      let (filters, next) := settleFilters next m.filters
      (.compositeFilter ⟨m.op, filters, mark⟩, next)
  | .filter m =>
      let (m, next) := m.settle next
      (.filter m, next)
  | .query m =>
      let (m, next) := m.settle next
      (.query m, next)
  | .request m =>
      let (q, next) := m.query.settle next
      (.request ⟨m.partitionId, q⟩, next)
  | m => (m, next)

mutual

/-- Settling a filter again changes nothing and takes no marks. -/
theorem Filter.settle_settled (next next' : Nat) (f : Filter α) :
    (f.settle next).1.settle next' = ((f.settle next).1, next') := by
  match f with
  | .property ⟨property, op, value, mark⟩ =>
    cases mark <;> simp [Filter.settle, PropertyFilter.settle, settleMark]
  | .composite op filters mark =>
    cases mark <;> simp [Filter.settle, settleMark, settleFilters_settled _ next' filters]

/-- Settling filters again changes nothing and takes no marks. -/
theorem settleFilters_settled (next next' : Nat) (filters : List (Filter α)) :
    settleFilters next' (settleFilters next filters).1 =
      ((settleFilters next filters).1, next') := by
  match filters with
  | [] => rfl
  | f :: rest =>
    simp [settleFilters, Filter.settle_settled next next' f,
      settleFilters_settled (f.settle next).2 next' rest]

end

/-- The class of a message does not depend on its marks. -/
@[simp] theorem Message.settle_cls (next : Nat) (m : Message α) :
    (m.settle next).1.cls = m.cls := by
  cases m <;> rfl

end EntityQuery
