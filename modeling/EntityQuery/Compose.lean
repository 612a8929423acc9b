import EntityQuery.Key
import EntityQuery.Message.Make

/-!
# Composing filters

A query has one filter, though a builder accumulates many. Without any there is none, a single
one is used as it is, and two or more become the parts of a conjunction, in the order in which
they were accumulated.

* `Filter.compose` composes filters.
* `composeFragments` composes values that should be filters. A single one is handed through
  whatever it is; several are checked like the parts of any composite filter.
-/

namespace EntityQuery

/-- The one filter for the filters that were accumulated. -/
def Filter.compose {α : Type} : List (Filter α) → Option (Filter α)
  | [] => none
  | [f] => some f
  | fs => some (.composite .and fs none)

@[simp] theorem Filter.compose_nil {α : Type} : compose ([] : List (Filter α)) = none := rfl

@[simp] theorem Filter.compose_singleton {α : Type} (f : Filter α) : compose [f] = some f := rfl

/-- Two filters or more become the parts of a conjunction. -/
theorem Filter.compose_of_two_le {α : Type} {fs : List (Filter α)} (h : 2 ≤ fs.length) :
    compose fs = some (.composite .and fs none) := by
  match fs, h with
  | _ :: _ :: _, _ => rfl

/-- The one fragment for a sequence of fragments. -/
def composeFragments (fragments : Value) : Except Failure Value :=
  if fragments.truthy then do
    if (← fragments.length) = 1 then Key.itemAt fragments 0
    else
      let filters ← fragments.items
      let composite ← CompositeFilter.make (.member (.composite .and)) filters
      return .message (.filter (.composite composite.op composite.filters composite.mark))
  else .ok .none

end EntityQuery
