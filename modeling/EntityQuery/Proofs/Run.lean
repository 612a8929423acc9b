import EntityQuery.Query

/-!
# What a run leaves behind

The state after a run of calls, field by field: what each call adds to a field is a function of the
call alone, and of the configuration where that asks for checks.

* `Query.Call.kinds` and its siblings are what a call adds to the fields that accumulate;
  `Query.Call.cursor?` and its siblings are what it puts into the fields where the last call wins.
  A call that fails adds nothing, but for the names before an offending one.
* `Query.apply_state` is the step and `Query.run_eq` the run, for all calls, failing ones included.
-/

namespace EntityQuery

/-- What the last call that puts anything into a field puts there. `limit`, `offset` and the cursor
are fields of this kind; the others accumulate. -/
def lastOf {α β : Type} (put? : α → Option β) (calls : List α) : Option β :=
  (calls.filterMap put?).getLast?

@[simp] theorem lastOf_nil {α β : Type} (put? : α → Option β) : lastOf put? [] = none := rfl

theorem lastOf_cons {α β : Type} (put? : α → Option β) (call : α) (calls : List α) :
    lastOf put? (call :: calls) = (lastOf put? calls).or (put? call) := by
  unfold lastOf
  cases put : put? call with
  | none => rw [List.filterMap_cons_none put, Option.or_none]
  | some b =>
      rw [List.filterMap_cons_some put, List.getLast?_cons]
      cases (calls.filterMap put?).getLast? <;> rfl

namespace Query

namespace Call

/-- The kinds that a call adds. -/
@[simp] def kinds : Call → List Value
  | .kindOf kind => [kind]
  | _ => []

/-- The projections that a call adds. -/
@[simp] def projections : Call → List Value
  | .keysOnly => [.text Condition.keyProperty]
  | .properties names => (project [] names).1
  | _ => []

/-- The filter units that a call adds. -/
@[simp] def units : Call → List Value
  | .filterBy unit => [unit]
  | _ => []

/-- The compiled orders that a call adds. -/
@[simp] def orders : Call → List (Message Value)
  | .orderBy order => order.compileAlone.result.toOption.toList
  | _ => []

/-- The compiled groups that a call adds. -/
@[simp] def groups : Call → List (Message Value)
  | .groupBy group => group.compileAlone.result.toOption.toList
  | _ => []

/-- The cursor that a call sets. -/
@[simp] def cursor? : Call → Option Value
  | .fromCursor cursor => some cursor
  | _ => none

/-- The page setting that `checkPage` lets pass. In a strict builder a refused call changes nothing,
so it must not count as the last one. -/
def accepted? (config : Value) (field : PageField) (v : Value) : Option Value :=
  (checkPage config field v).toOption.map fun _ => v

/-- The limit that a call sets. -/
@[simp] def limit? (config : Value) : Call → Option Value
  | .limit v => accepted? config .limit v
  | _ => none

/-- The offset that a call sets. -/
@[simp] def offset? (config : Value) : Call → Option Value
  | .offset v => accepted? config .offset v
  | .clearOffset => some (.int 0)
  | _ => none

end Call

/-- `project` appends, so the projections of a call do not depend on those recorded before. -/
theorem project_eq (projections names : List Value) :
    project projections names = (projections ++ (project [] names).1, (project [] names).2) := by
  induction names generalizing projections with
  | nil => simp [project]
  | cons v rest ih =>
      unfold project
      cases namesOf v with
      | error e => simp
      | ok names =>
          dsimp only
          rw [ih (projections ++ names), ih ([] ++ names)]
          simp

/-- The state after one call, field by field: the step lemma of `run_eq`. -/
theorem apply_state (q : Query) (call : Call) :
    (q.apply call).state =
      { q with
        kinds := q.kinds ++ call.kinds
        projections := q.projections ++ call.projections
        filters := q.filters ++ call.units
        orders := q.orders ++ call.orders
        groups := q.groups ++ call.groups
        startCursor := call.cursor?.getD q.startCursor
        limit := (call.limit? q.config).getD q.limit
        offset := (call.offset? q.config).getD q.offset } := by
  obtain ⟨config, kinds, projections, filters, orders, groups, startCursor, limit, offset⟩ := q
  cases call with
  | properties names => simp [apply, project_eq projections names]
  | orderBy order =>
      simp only [apply]
      cases compiled : order.compileAlone.result <;> simp [compiled, Except.toOption]
  | groupBy group =>
      simp only [apply]
      cases compiled : group.compileAlone.result <;> simp [compiled, Except.toOption]
  | limit v =>
      simp only [apply]
      cases checked : checkPage config .limit v <;>
        simp [checked, Effect.done, Effect.failed, Call.accepted?, Except.toOption]
  | offset v =>
      simp only [apply]
      cases checked : checkPage config .offset v <;>
        simp [checked, Effect.done, Effect.failed, Call.accepted?, Except.toOption]
  | _ => simp [apply, Effect.done]

/-- The state after a run, by induction on the calls with `apply_state`: what accumulates is a
`flatMap` over them, and everything else is `lastOf`. -/
theorem run_eq (q : Query) (calls : List Call) :
    q.run calls =
      { q with
        kinds := q.kinds ++ calls.flatMap Call.kinds
        projections := q.projections ++ calls.flatMap Call.projections
        filters := q.filters ++ calls.flatMap Call.units
        orders := q.orders ++ calls.flatMap Call.orders
        groups := q.groups ++ calls.flatMap Call.groups
        startCursor := (lastOf Call.cursor? calls).getD q.startCursor
        limit := (lastOf (Call.limit? q.config) calls).getD q.limit
        offset := (lastOf (Call.offset? q.config) calls).getD q.offset } := by
  -- By induction on the calls: what the first one adds stays in front of what the others add.
  induction calls generalizing q with
  | nil => simp
  | cons call rest ih =>
      -- What a call puts into a field counts if no later one puts anything there.
      have later : ∀ (a b : Option Value) (v : Value), a.getD (b.getD v) = (a.or b).getD v := by
        intro a b v
        cases a <;> rfl
      rw [run_cons, ih, apply_state]
      simp only [List.flatMap_cons, lastOf_cons, List.append_assoc, later]

@[simp] theorem run_config (q : Query) (calls : List Call) : (q.run calls).config = q.config := by
  rw [run_eq]

end Query

end EntityQuery
