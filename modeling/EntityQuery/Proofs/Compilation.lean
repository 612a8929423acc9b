import EntityQuery.Proofs.Checking
import EntityQuery.Query

/-!
# Results of compilations

A compilation leaves events and has a result. What the results are, and whether there are any,
does not depend on the events; here is what a compilation is when they are set aside.

* `Traced.bind_result` gives up the events, `compileState_result` does so for builders.
* `Value.IsTree` is the shape that filter units have who are built of conditions only, with a
  condition on the comparisons at the leaves and one on the operators of the combinations.
* `Value.IsNamespace` is what a query can be compiled for.
-/

namespace EntityQuery

namespace Traced

variable {α β : Type}

/-- `result` goes through `>>=`. The trace of a compilation is put aside by this, and what is left
is a computation in `Except Failure`. -/
theorem bind_result (x : Traced α) (f : α → Traced β) :
    (x >>= f).result = x.result >>= fun a => (f a).result := by
  cases h : x.result with
  | ok a => rw [bind_of_ok h]; rfl
  | error e => rw [bind_of_error h]; rfl

/-- After a success, the result is that of the second computation. -/
theorem bind_result_of_ok {x : Traced α} {a : α} (h : x.result = .ok a) (f : α → Traced β) :
    (x >>= f).result = (f a).result := by
  rw [bind_of_ok h]

theorem bind_result_of_error {x : Traced α} {e : Failure} (h : x.result = .error e)
    (f : α → Traced β) : (x >>= f).result = .error e := by
  rw [bind_of_error h]

@[simp] theorem map_events (f : α → β) (x : Traced α) : (f <$> x).events = x.events := by
  rw [← bind_pure_comp]
  cases h : x.result with
  | ok a => rw [bind_of_ok h]; exact List.append_nil _
  | error e => rw [bind_of_error h]

@[simp] theorem map_result (f : α → β) (x : Traced α) : (f <$> x).result = f <$> x.result := by
  rw [← bind_pure_comp, bind_result, ← bind_pure_comp]
  rfl

end Traced

/-- The result of `compileState`, without its events: the namespace and its description, the names,
the filter units, and then `QueryMessage.make` of everything at once. All statements about when a
builder compiles start from this equation. -/
theorem compileState_result (q : QueryState Value) (scope : Value) :
    (compileState q scope).result = (do
      let scope ← effectiveScope q.config scope
      let _ ← scope.describe
      let names ← compileNames q.kinds q.projections
      let filters ← (compileUnits q.filters 0 scope).result
      QueryMessage.make names.1 names.2 (Filter.compose filters) q.orders q.groups
        q.startCursor q.limit q.offset) := by
  obtain ⟨config, kinds, projections, filters, orders, groups, startCursor, limit, offset⟩ := q
  simp only [compileState, Traced.bind_result]
  rfl

/-- `compileNames` on texts. `Value.textOf` gives the text of each, as `asText?` is known to be
one. -/
theorem compileNames_of_texts {kinds projections : List Value}
    (kindTexts : ∀ v ∈ kinds, v.asText?.isSome = true)
    (projectionTexts : ∀ v ∈ projections, v.asText?.isSome = true) :
    compileNames kinds projections = .ok (kinds.map fun v => ⟨v.textOf⟩,
      projections.map fun v => ⟨⟨v.textOf⟩⟩) := by
  have kindsMade : kinds.mapM KindExpression.make = .ok (kinds.map fun v => ⟨v.textOf⟩) := by
    induction kinds with
    | nil => rfl
    | cons v rest ih =>
        simp only [List.forall_mem_cons] at kindTexts
        rw [List.mapM_cons, KindExpression.make_of_isSome kindTexts.1, ih kindTexts.2]
        rfl
  have projectionsMade :
      projections.mapM Projection.make = .ok (projections.map fun v => ⟨⟨v.textOf⟩⟩) := by
    induction projections with
    | nil => rfl
    | cons v rest ih =>
        simp only [List.forall_mem_cons] at projectionTexts
        rw [List.mapM_cons, Projection.make, PropertyReference.make_of_isSome projectionTexts.1,
          ih projectionTexts.2]
        rfl
  rw [compileNames, kindsMade, projectionsMade]
  rfl

theorem Value.compile_comparison_result (mark : Nat) (isAncestor : Bool)
    (property op operand scope : Value) :
    ((Value.comparison mark isAncestor property op operand).compile scope).result =
      (Value.message ∘ .filter) <$> compileComparison property op operand scope := rfl

theorem Value.compile_combination_result (mark : Nat) (op : Value) (parts : List Value)
    (scope : Value) :
    ((Value.combination mark op parts).compile scope).result = (do
      let answers ← (compileParts parts scope).result
      (Value.message ∘ .filter) <$> compileCombination op answers) := by
  rw [Value.compile, Traced.bind_result]
  rfl

theorem compileParts_cons_result (v : Value) (rest : List Value) (scope : Value) :
    (compileParts (v :: rest) scope).result = (do
      let answer ← (v.compile scope).result
      let answers ← (compileParts rest scope).result
      return answer :: answers) := by
  simp only [compileParts, Traced.bind_result]
  rfl

/-- `compileUnits` where the first unit compiles to a filter; the rest counts on from `index +
1`. -/
theorem compileUnits_cons_result {unit : Value} (compilable : unit.isCompilable = true)
    (rest : List Value) (index : Nat) {scope answer : Value} {f : Filter Value}
    (answers : (unit.compile scope).result = .ok answer)
    (isFilter : answer.content = .message (.filter f)) :
    (compileUnits (unit :: rest) index scope).result =
      (f :: ·) <$> (compileUnits rest (index + 1) scope).result := by
  rw [compileUnits, if_pos compilable, Traced.bind_result_of_ok answers]
  simp only [isFilter, Traced.bind_result]
  rfl

/-- `compileCombination` on answers that are filters. Only `checkCompositeOperator` can refuse
anything then. -/
theorem compileCombination_filters (op : Value) (filters : List (Filter Value)) :
    compileCombination op (filters.map (Value.message ∘ .filter)) =
      (Filter.composite · filters none) <$> Checked.orInvalid .compositeFilter
        (Checked.under (.key "op") (checkCompositeOperator op)) := by
  rw [compileCombination, CompositeFilter.make_filters]
  rcases checkCompositeOperator op with (_ | _) | _ <;> rfl

/-! ## Trees of conditions -/

/-- Trees of comparisons and combinations, with a condition `leaf` on the arguments of every
comparison and one, `node`, on the operator of every combination. Statements about units ask for
different things at the leaves, and this way they share one induction. -/
inductive Value.IsTree (leaf : Value → Value → Value → Prop) (node : Value → Prop) :
    Value → Prop where
  | comparison {mark : Nat} {isAncestor : Bool} {property op operand : Value}
      (fits : leaf property op operand) :
      IsTree leaf node (.comparison mark isAncestor property op operand)
  | combination {mark : Nat} {op : Value} {parts : List Value} (fits : node op)
      (each : ∀ p ∈ parts, IsTree leaf node p) : IsTree leaf node (.combination mark op parts)
  | object {number : Nat} {look : Unit → Value} (seen : IsTree leaf node (look ())) :
      IsTree leaf node (.object number look)

theorem Value.IsTree.isCompilable {leaf : Value → Value → Value → Prop} {node : Value → Prop}
    {v : Value} (h : v.IsTree leaf node) : v.isCompilable = true := by
  induction h with
  | comparison _ => rfl
  | combination _ _ _ => rfl
  | object _ ih => exact ih

/-! ## Namespaces -/

/-- A namespace: a text or nothing. That is what `effectiveScope` is meant for, though it takes
anything. -/
def Value.IsNamespace (v : Value) : Prop := v.isNone = true ∨ v.asText?.isSome = true

theorem Value.IsNamespace.describe {v : Value} (h : v.IsNamespace) :
    ∃ s, v.describe = .ok s := by
  have described : ∀ (v : Value) (place : Option Nat), v.IsNamespace →
      ∃ s, v.describeIn .described [] place = .ok s := by
    intro v
    induction v using Value.content.induct with
    | case1 number look ih => exact fun _ h => ih (some number) h
    | case2 v notObject =>
        intro place h
        cases v with
        | none | text _ | member _ => exact ⟨_, rfl⟩
        | object _ look => exact absurd rfl (notObject _ look)
        | _ => simp [IsNamespace, isNone, asText?] at h
  exact described v Option.none h

/-- `effectiveScope` finds what it has found before: where it gives nothing, the configuration gives
nothing either. -/
theorem effectiveScope_idem {config scope n : Value}
    (effective : effectiveScope config scope = .ok n) : effectiveScope config n = .ok n := by
  unfold effectiveScope at effective ⊢
  by_cases given : scope.isNone = true
  · rw [if_pos given] at effective
    rw [effective, ite_self]
  · rw [if_neg given] at effective
    cases effective
    rw [if_neg given]

/-- So compiling for the effective namespace is compiling for the one asked for, events included. -/
theorem Query.compile_effectiveScope {q : Query} {scope n : Value}
    (effective : effectiveScope q.config scope = .ok n) : q.compile n = q.compile scope := by
  obtain ⟨config, kinds, projections, filters, orders, groups, startCursor, limit, offset⟩ := q
  rw [compile, compile, compileState, compileState, effectiveScope_idem effective, effective]

/-- `Query.request` makes a `PartitionId` and compiles, for the same namespace. -/
theorem Query.request_eq_ok_iff {q : Query} {scope projectId n : Value} {m : RequestMessage Value}
    (effective : effectiveScope q.config scope = .ok n) :
    (q.request scope projectId).result = .ok m ↔
      PartitionId.make projectId n = .ok m.partitionId ∧
        (q.compile scope).result = .ok m.query := by
  rw [request, Traced.bind_result_of_ok effective, compile_effectiveScope effective]
  constructor
  · intro requested
    obtain ⟨partition, made, requested⟩ := Traced.bind_result_eq_ok.mp requested
    obtain ⟨query, compiled, requested⟩ := Traced.bind_result_eq_ok.mp requested
    cases requested
    exact ⟨made, compiled⟩
  · rintro ⟨made, compiled⟩
    exact Traced.bind_result_eq_ok.mpr ⟨_, made, Traced.bind_result_eq_ok.mpr ⟨_, compiled, rfl⟩⟩

end EntityQuery
