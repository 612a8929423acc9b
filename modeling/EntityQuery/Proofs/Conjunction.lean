import EntityQuery.Factory
import EntityQuery.Proofs.Mirror
import EntityQuery.Proofs.RunFields
import EntityQuery.Proofs.Scope
import EntityQuery.Proofs.Visits

/-!
# Two ways to say that all units hold

Filter units are joined by a builder, which composes the filters that they compile to, or by the
caller, who makes a combination of them. The builder looks at every answer as it comes; the
combination collects all of them and has them validated as parts of a composite filter. For units
that answer filters, if they answer at all, both come to the same.

* `compileParts_filters` compares the two ways unit by unit: the same events, the same failure, and
  answers that hold the filters.
* `Value.compile_combination_eq` is what follows for a combination of such units, and
  `compileUnits_joined` for a builder that has it for its only unit.
* `Query.compile_joined` is about builders: several units are accumulated or joined with the same
  result, and a single one that is joined gets a conjunction of its own around it.
-/

namespace EntityQuery

namespace Traced

variable {α : Type}

/-- A computation is its events and its result, so two of them are equal if both agree. -/
theorem ext {x y : Traced α} (events : x.events = y.events) (result : x.result = y.result) :
    x = y := by
  cases x
  cases y
  cases events
  cases result
  rfl

end Traced

/-- `SameOutcome` up to equality is equality, failures included. -/
theorem SameOutcome.eq {ε α : Type} {x y : Except ε α} (outcome : SameOutcome Eq x y) : x = y := by
  cases outcome with
  | ok same => rw [same]
  | error e => rfl

variable {n : Value}

/-! ## Units -/

/-- Units that do not offend can be compiled, and what they answer is a filter. -/
theorem not_offends_iff {u : Value} :
    ¬ Offends n u ↔ u.isCompilable = true ∧
      ∀ answer, (u.compile n).result = .ok answer → ∃ f, answer.content = .message (.filter f) := by
  simp [Offends]

/-- Answers hold filters: each is seen as one, though it may be at a place. `compileUnits` hands on
the filters and `compileParts` the answers, and this is the difference. -/
abbrev AnswersHold (answers : List Value) (fs : List (Filter Value)) : Prop :=
  List.Forall₂ (fun answer f => answer.content = .message (.filter f)) answers fs

/-- `compileParts` and `compileUnits` on units that do not offend: the same events, and the same
failure or answers that hold the filters. By induction on the units, with the index running
along. -/
theorem compileParts_filters {units : List Value} (fair : ∀ u ∈ units, ¬ Offends n u)
    (index : Nat) :
    (compileParts units n).events = (compileUnits units index n).events ∧
      SameOutcome AnswersHold (compileParts units n).result
        (compileUnits units index n).result := by
  induction units generalizing index with
  | nil => exact ⟨rfl, .ok .nil⟩
  | cons u rest ih =>
      obtain ⟨first, others⟩ := List.forall_mem_cons.mp fair
      obtain ⟨compilable, filters⟩ := not_offends_iff.mp first
      obtain ⟨events, outcome⟩ := ih others (index + 1)
      rw [compileParts, compileUnits, if_pos compilable]
      cases compiled : (u.compile n).result with
      | error e =>
          rw [Traced.bind_of_error compiled, Traced.bind_of_error compiled]
          exact ⟨rfl, .error e⟩
      | ok answer =>
          obtain ⟨f, holds⟩ := filters answer compiled
          rw [Traced.bind_of_ok compiled, Traced.bind_of_ok compiled, holds]
          simp only [bind_pure_comp, Traced.map_events, Traced.map_result, events, true_and]
          exact outcome.map fun _ _ rest => .cons holds rest

/-- The units of a builder are called from left to right, up to the first one that fails. -/
theorem compileUnits_events {units : List Value} (fair : ∀ u ∈ units, ¬ Offends n u) (index : Nat) :
    (compileUnits units index n).events =
      (upToFirst (·.raises n) units).flatMap fun u => (u.compile n).events := by
  induction units generalizing index with
  | nil => rfl
  | cons u rest ih =>
      obtain ⟨first, others⟩ := List.forall_mem_cons.mp fair
      obtain ⟨compilable, filters⟩ := not_offends_iff.mp first
      rw [compileUnits, if_pos compilable, upToFirst]
      cases compiled : (u.compile n).result with
      | error e =>
          rw [Traced.bind_of_error compiled, if_pos (Value.raises_of_error compiled)]
          exact (List.append_nil _).symm
      | ok answer =>
          obtain ⟨f, holds⟩ := filters answer compiled
          have passes : ¬ u.raises n = true := by
            rw [Value.raises_eq_false_iff.mpr ⟨answer, compiled⟩]
            exact Bool.false_ne_true
          rw [Traced.bind_of_ok compiled, holds, if_neg passes, List.flatMap_cons,
            ← ih others (index + 1)]
          simp only [bind_pure_comp, Traced.map_events]

/-! ## Combinations -/

/-- Units are joined by a built-in operator as they are. -/
theorem Condition.combination_member {mark : Nat} {op : CompositeOperator} {units : List Value}
    (nonempty : units ≠ []) :
    combination mark (.member (.composite op)) units =
      .ok (.combination mark (.member (.composite op)) units) := by
  have settled := Enumeration.settle_member (.composite op)
  rw [Member.enumeration] at settled
  rw [combination, if_neg (by simpa using nonempty), settled]
  rfl

/-- `Filter.checkItems` takes answers that hold filters for these filters, wherever they are. -/
theorem Filter.checkItems_of_hold {answers : List Value} {fs : List (Filter Value)}
    (hold : AnswersHold answers fs) (index : Nat) :
    Filter.checkItems Filter.checkInMessage index answers [] = (.ok fs, []) := by
  induction hold generalizing index with
  | nil => rfl
  | @cons answer f _ _ holds _ ih =>
      have taken : Filter.checkInMessage answer [] = (.ok f, []) := by
        have alone : answer.isAmong [] = false := by
          unfold Value.isAmong
          cases answer.place? <;> rfl
        simp [checkInMessage, Nesting.limit, checkIn, alone, holds]
      rw [Filter.checkItems, taken, ih]
      rfl

/-- A combination of such answers by an operator is the combination of the filters. -/
theorem compileCombination_of_hold {answers : List Value} {fs : List (Filter Value)}
    (hold : AnswersHold answers fs) (op : CompositeOperator) :
    compileCombination (.member (.composite op)) answers = .ok (.composite op fs none) := by
  have items : Filter.checkSequence Filter.checkInMessage (.tuple answers) [] = (.ok fs, []) :=
    Filter.checkItems_of_hold hold 0
  have operator : checkCompositeOperator (.member (.composite op)) = .ok op :=
    checkMember_of_spelling rfl (CompositeOperator.ofSpelling?_spelling op)
  simp [compileCombination, CompositeFilter.make, CompositeFilter.ofEntries,
    CompositeFilter.descend, Field.op, Field.filters, Spelling.same, Spelling.defaulted,
    Spelling.descend, Spelling.given?, List.lookup_cons, items, operator, Checked.orInvalid]

/-- A combination compiles its parts as `compileUnits` does and then makes a `composite`, which
cannot fail for filters and a built-in operator. -/
theorem Value.compile_combination_eq {units : List Value} (fair : ∀ u ∈ units, ¬ Offends n u)
    (mark : Nat) (op : CompositeOperator) (index : Nat) :
    (Value.combination mark (.member (.composite op)) units).compile n =
      (fun fs => (Filter.composite op fs Option.none).asAnswer) <$> compileUnits units index n := by
  obtain ⟨events, outcome⟩ := compileParts_filters fair index
  rw [Value.compile]
  generalize answered : (compileParts units n).result = result at outcome
  generalize compiled : (compileUnits units index n).result = result' at outcome
  cases outcome with
  | error e =>
      rw [Traced.bind_of_error answered]
      refine Traced.ext ?_ ?_
      · rw [Traced.map_events, events]
      · rw [Traced.map_result, compiled]
        rfl
  | ok hold =>
      rw [Traced.bind_of_ok answered, compileCombination_of_hold hold]
      refine Traced.ext ?_ ?_
      · rw [Traced.map_events, ← events]
        exact List.append_nil _
      · rw [Traced.map_result, compiled]
        rfl

/-! ## Builders -/

/-- A builder whose only unit is a combination has its filter, or its failure. -/
theorem compileUnits_joined {units : List Value} (fair : ∀ u ∈ units, ¬ Offends n u) (mark : Nat)
    (op : CompositeOperator) :
    (compileUnits [.combination mark (.member (.composite op)) units] 0 n).result =
      (fun fs => [Filter.composite op fs none]) <$> (compileUnits units 0 n).result := by
  have compilable :
      (Value.combination mark (.member (.composite op)) units).isCompilable = true := rfl
  have joined := congrArg Traced.result (Value.compile_combination_eq fair mark op 0)
  rw [Traced.map_result] at joined
  cases compiled : (compileUnits units 0 n).result with
  | error e =>
      rw [compiled] at joined
      rw [compileUnits, if_pos compilable, Traced.bind_result_of_error joined]
      rfl
  | ok fs =>
      rw [compiled] at joined
      rw [compileUnits_cons_result compilable [] 0 joined rfl]
      rfl

/-- Two filters make for the same message in everything else. -/
theorem QueryMessage.make_of_filters {related : QueryMessage Value → QueryMessage Value → Prop}
    (kinds : List KindExpression) (projections : List Projection) {f g : Option (Filter Value)}
    (relate : ∀ m : QueryMessage Value, related { m with filter := f } { m with filter := g })
    (orders groups : List (Message Value)) (startCursor limit offset : Value) :
    SameOutcome related
      (make kinds projections f orders groups startCursor limit offset)
      (make kinds projections g orders groups startCursor limit offset) := by
  rw [make_eq, make_eq]
  apply Checked.orInvalid_sameOutcome
  repeat apply Checked.and_sameOutcome
  exact .ok fun orders groups cursor limit offset =>
    relate ⟨kinds, projections, f, orders, groups, cursor, limit, offset⟩

namespace Query

theorem run_filterBy (q : Query) (units : List Value) :
    q.run (units.map .filterBy) = { q with filters := q.filters ++ units } := by
  induction units generalizing q with
  | nil => simp
  | cons u rest ih =>
      rw [List.map_cons, run_cons, ih]
      simp [apply, Effect.done]

/-- Two builders that differ in their units alone compile to messages that differ in `filter` alone.
Everything else in `compileState` is the same computation. -/
theorem compile_of_units {related : QueryMessage Value → QueryMessage Value → Prop} (q : Query)
    (units units' : List Value) {scope : Value} (effective : effectiveScope q.config scope = .ok n)
    (outcome : SameOutcome (fun fs gs => ∀ m : QueryMessage Value,
        related { m with filter := Filter.compose fs } { m with filter := Filter.compose gs })
      (compileUnits units 0 n).result (compileUnits units' 0 n).result) :
    SameOutcome related (Query.compile { q with filters := units } scope).result
      (Query.compile { q with filters := units' } scope).result := by
  rw [compile, compile, compileState_result, compileState_result]
  dsimp only
  rw [effective]
  refine .bind_same (fun shown => .bind_same (fun names => outcome.bind fun fs gs relate => ?_) _) _
  exact QueryMessage.make_of_filters names.1 names.2 relate q.orders q.groups q.startCursor q.limit
    q.offset

/-- From two units on, `compileFilters` makes the conjunction that `Factory.make` would make of
them. A single one it leaves as it is, hence the case apart in `compile_joined`. -/
theorem compileFilters_of_two_le {units : List Value} (several : 2 ≤ units.length) :
    compileFilters units n =
      (fun fs => some (.composite .and fs none)) <$> compileUnits units 0 n := by
  refine Traced.ext (by simp [compileFilters]) ?_
  rw [compileFilters, Traced.map_result, Traced.map_result]
  cases compiled : (compileUnits units 0 n).result with
  | error e => rfl
  | ok fs =>
      have length := (compileUnits_eq_ok_iff.mp compiled).length_eq
      exact congrArg Except.ok (Filter.compose_of_two_le (length ▸ several))

/-- Units that do not offend can be accumulated or joined by `Factory.make`. Several of them are
compiled in the same way, one after another up to the first that fails, to the same filter or with
the same failure, and so are builders that were given the ones or the other. A single unit that is
joined gets a `composite` of its own around its filter, and that is the only difference. -/
theorem compile_joined {units : List Value} (fair : ∀ v ∈ units, ¬ Offends n v)
    (nonempty : units ≠ []) (mark : Nat) :
    ∃ u, Factory.make mark .both units = .ok u ∧
      (2 ≤ units.length → ∃ x : Traced (Filter Value),
        compileFilters units n = some <$> x ∧ u.compile n = Filter.asAnswer <$> x ∧
          x.events = (upToFirst (·.raises n) units).flatMap fun v => (v.compile n).events) ∧
      ∀ (q : Query) (scope : Value), q.filters = [] → effectiveScope q.config scope = .ok n →
        let apart := (Query.compile (q.run (units.map .filterBy)) scope).result
        let joined := (Query.compile (q.run [.filterBy u]) scope).result
        (2 ≤ units.length → joined = apart) ∧
        ∀ v, units = [v] → SameOutcome (fun m m' => ∃ f, CompilesTo n v f ∧ m.filter = some f ∧
          m' = { m with filter := some (.composite .and [f] none) }) apart joined := by
  refine ⟨_, Condition.combination_member nonempty, fun several => ?_, ?_⟩
  · refine ⟨(Filter.composite .and · none) <$> compileUnits units 0 n, ?_, ?_, ?_⟩
    · rw [compileFilters_of_two_le several, ← comp_map]
      rfl
    · rw [Value.compile_combination_eq fair mark .and 0, ← comp_map]
      rfl
    · rw [Traced.map_events, compileUnits_events fair]
  · intro q scope fresh effective apart joined
    have accumulated : q.run (units.map .filterBy) = { q with filters := units } := by
      rw [run_filterBy, fresh, List.nil_append]
    have combined : q.run [.filterBy (.combination mark (.member (.composite .and)) units)] =
        { q with filters := [.combination mark (.member (.composite .and)) units] } := by
      rw [← List.map_singleton, run_filterBy, fresh, List.nil_append]
    -- Whatever the units compile to, the combination has the conjunction of it.
    have outcome : ∀ {related : QueryMessage Value → QueryMessage Value → Prop},
        (∀ fs, List.Forall₂ (CompilesTo n) units fs → ∀ m : QueryMessage Value,
          related { m with filter := Filter.compose fs }
            { m with filter := some (.composite .and fs none) }) →
        SameOutcome related apart joined := by
      intro related relate
      simp only [apart, joined, accumulated, combined]
      refine compile_of_units q _ _ effective ?_
      rw [compileUnits_joined fair]
      cases compiled : (compileUnits units 0 n).result with
      | error e => exact .error e
      | ok fs => exact .ok (relate fs (compileUnits_eq_ok_iff.mp compiled))
    constructor
    · intro several
      have same : SameOutcome Eq apart joined := by
        refine outcome fun fs each m => ?_
        rw [Filter.compose_of_two_le (each.length_eq ▸ several)]
      exact same.eq.symm
    · rintro v rfl
      refine outcome fun fs each m => ?_
      obtain ⟨f, fs, compiles, others, rfl⟩ := List.forall₂_cons_left_iff.mp each
      obtain rfl := List.forall₂_nil_left_iff.mp others
      exact ⟨f, compiles, rfl, rfl⟩

/-- An order among recording units fails, after the first of them has been called; and a recording
unit alone is joined to a conjunction of one part. -/
theorem compile_joined_order :
    let n : Value := .text "n"
    let r₇ : Value := .recorder 7 (.text "a")
    let units : List Value := [r₇, .order (.text "b") .none, .recorder 8 (.text "c")]
    let q : Query := Query.new (.config (.text "n") (.bool false))
    ((∀ v ∈ units, ¬ Offends n v) ∧ units ≠ [] ∧ (∀ v ∈ [r₇], ¬ Offends n v) ∧ [r₇] ≠ [] ∧
      q.filters = [] ∧ effectiveScope q.config .none = .ok n) ∧
    (∃ u x, Factory.make 1 .both units = .ok u ∧ compileFilters units n = some <$> x ∧
      u.compile n = Filter.asAnswer <$> x ∧ x.events = [.visited 7 n] ∧
      (Query.compile (q.run [.filterBy u]) .none).result =
        .error (.tooManyArguments "Order.compile" 1 1 2)) ∧
    ∃ u m m' f, Factory.make 1 .both [r₇] = .ok u ∧
      (Query.compile (q.run [.filterBy r₇]) .none).result = .ok m ∧
      (Query.compile (q.run [.filterBy u]) .none).result = .ok m' ∧
      m.filter = some f ∧ m'.filter = some (.composite .and [f] none) := by
  intro n r₇ units q
  have recorder : ∀ mark name, ¬ Offends n (.recorder mark (.text name)) := fun mark name =>
    not_offends_iff.mpr ⟨rfl, fun answer compiled => by cases compiled; exact ⟨_, rfl⟩⟩
  have order : ¬ Offends n (.order (.text "b") .none) :=
    not_offends_iff.mpr ⟨rfl, fun answer compiled => by cases compiled⟩
  have fair : ∀ v ∈ units, ¬ Offends n v := by
    simp only [units, List.forall_mem_cons, List.not_mem_nil, false_implies, implies_true, and_true]
    exact ⟨recorder 7 "a", order, recorder 8 "c"⟩
  have alone : ∀ v ∈ [r₇], ¬ Offends n v := List.forall_mem_singleton.mpr (recorder 7 "a")
  have effective : effectiveScope q.config .none = .ok n := rfl
  refine ⟨⟨fair, by simp [units], alone, by simp, rfl, effective⟩, ?_, ?_⟩
  · obtain ⟨u, made, several, builders⟩ := compile_joined fair (by simp [units]) 1
    obtain ⟨x, composed, compiled, events⟩ := several (by simp [units])
    refine ⟨u, x, made, composed, compiled, events.trans rfl, ?_⟩
    rw [(builders q .none rfl effective).1 (by simp [units])]
    rfl
  · obtain ⟨u, made, -, builders⟩ := compile_joined alone (by simp) 1
    have outcome := (builders q .none rfl effective).2 r₇ rfl
    obtain ⟨m, compiled⟩ : ∃ m, (Query.compile (q.run [.filterBy r₇]) .none).result = .ok m :=
      ⟨_, rfl⟩
    rw [List.map_singleton, compiled] at outcome
    generalize joined : (Query.compile (q.run [.filterBy u]) .none).result = result at outcome
    cases outcome with
    | ok related =>
        obtain ⟨f, -, filter, rfl⟩ := related
        exact ⟨u, m, _, f, made, compiled, joined, filter, rfl⟩

end Query

end EntityQuery
