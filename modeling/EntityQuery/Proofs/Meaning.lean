import EntityQuery.Proofs.Mirror

/-!
# What a compiled query means

An interpretation says of every property filter whether it holds. Then a filter holds or does not,
and so does a tree of conditions when it is read as a formula whose operands are resolved for a
namespace. A query means the conjunction of its filters, although it is sent in one of three
shapes: without a filter, with the only one, or with all of them under a conjunction.

* `Filter.holds` and `Value.holds` are the two readings, and `Filter.Mirrors.holds` says that a
  tree and its filter have the same one.
* `Value.conjuncts` opens the conjunctions on top of a unit. What a list of units means, and whether
  it compiles, is decided by the conjuncts in it, however they are grouped.
* `Query.holds_compile` is about compiled queries.
-/

namespace EntityQuery

/-- Which property filters hold: those of a property, an operator and a resolved operand. Nothing is
assumed of it, so the store that answers queries stays open. -/
abbrev Interpretation := PropertyReference → PropertyOperator → List (String × Value) → Bool

/-- The truth of a combination whose parts have the given ones. -/
def CompositeOperator.holds : CompositeOperator → List Bool → Bool
  | .and, parts => parts.all id
  | .or, parts => parts.any id

section

variable (truth : Interpretation)

mutual

/-- Does a filter hold? Combinations by `CompositeOperator.holds`, leaves by `truth`. -/
def Filter.holds : Filter Value → Bool
  | .property m => truth m.property m.op m.value
  | .composite op filters _ => op.holds (filtersHold filters)
termination_by structural f => f

/-- Which of several filters hold? -/
def filtersHold : List (Filter Value) → List Bool
  | [] => []
  | f :: rest => f.holds :: filtersHold rest
termination_by structural filters => filters

end

/-- Does the filter of a query hold? A query without one is for everything. -/
def QueryMessage.holds (m : QueryMessage Value) : Bool := m.filter.all (Filter.holds truth)

/-- Does a comparison hold for a namespace? One that cannot be resolved has no filter, and counts as
false. -/
def comparisonHolds (n property op operand : Value) : Bool :=
  match property.spelling?, op.propertyOperator?, operand.resolved? n with
  | some name, some op, some value => truth ⟨name⟩ op value
  | _, _, _ => false

mutual

/-- Does a tree of conditions hold for a namespace, read as a formula? It never compiles anything;
only `resolved?` looks at the namespace. -/
def Value.holds : Value → Value → Bool
  | .comparison _ _ property op operand, n => comparisonHolds truth n property op operand
  | .combination _ op parts, n => op.compositeOperator?.any (·.holds (unitsHold parts n))
  | .object _ look, n => (look ()).holds n
  | _, _ => false
termination_by structural v => v

/-- Which of several units hold for a namespace? -/
def unitsHold : List Value → Value → List Bool
  | [], _ => []
  | v :: rest, n => v.holds n :: unitsHold rest n
termination_by structural units => units

end

end

variable {truth : Interpretation} {n : Value}

theorem filtersHold_eq_map (fs : List (Filter Value)) :
    filtersHold truth fs = fs.map (Filter.holds truth) := by
  induction fs with
  | nil => rfl
  | cons f rest ih => rw [filtersHold, ih, List.map_cons]

theorem unitsHold_eq_map (units : List Value) :
    unitsHold truth units n = units.map (·.holds truth n) := by
  induction units with
  | nil => rfl
  | cons u rest ih => rw [unitsHold, ih, List.map_cons]

/-! ## One unit -/

theorem PropertyFilter.Compares.holds {property op operand : Value} {m : PropertyFilter Value}
    (compares : m.Compares n property op operand) :
    comparisonHolds truth n property op operand = truth m.property m.op m.value := by
  rw [comparisonHolds, compares.property, compares.op, compares.value]

/-- `Filter.holds` of a mirror is `Value.holds` of its tree, by induction on `Mirrors`. -/
theorem Filter.Mirrors.holds {u : Value} {f : Filter Value} (mirrors : f.Mirrors n u) :
    f.holds truth = u.holds truth n := by
  induction mirrors with
  | comparison compares => exact compares.holds.symm
  | combination isOperator length each ih =>
      rw [Filter.holds, Value.holds, isOperator, Option.any_some, filtersHold_eq_map,
        unitsHold_eq_map]
      -- The operator is the same, and so are the truths that it is applied to, one by one.
      congr 1
      symm
      rw [← List.forall₂_eq_eq_eq, List.forall₂_map_left_iff, List.forall₂_map_right_iff,
        List.forall₂_iff_zip]
      exact ⟨length, fun pair => (ih _ _ pair).symm⟩
  | object _ ih => exact ih

/-! ## Several units -/

/-- `Filter.compose` is a conjunction, also where it makes no node: none is true, and one is
itself. -/
theorem Filter.holds_compose (fs : List (Filter Value)) :
    (Filter.compose fs).all (Filter.holds truth) = fs.all (Filter.holds truth) := by
  match fs with
  | [] => rfl
  | [f] => simp
  | f :: g :: rest =>
      rw [compose_of_two_le (by simp), Option.all_some, Filter.holds, CompositeOperator.holds,
        filtersHold_eq_map, List.all_map]
      rfl

/-- The filters of trees all hold if the trees do. -/
theorem Filter.all_holds_of_mirrors {units : List Value} {fs : List (Filter Value)}
    (each : List.Forall₂ (Filter.Mirrors n) units fs) :
    fs.all (Filter.holds truth) = units.all (·.holds truth n) := by
  induction each with
  | nil => rfl
  | cons mirrors _ ih => rw [List.all_cons, List.all_cons, mirrors.holds, ih]

mutual

/-- The conjuncts of a unit: what is left of it when the `and` nodes on top are opened. Disjunctions
and comparisons stay whole. -/
def Value.conjuncts : Value → List Value
  | .combination mark op parts =>
      if op.compositeOperator? = some .and then conjunctsIn parts
      else [.combination mark op parts]
  | .object _ look => (look ()).conjuncts
  | v => [v]
termination_by structural v => v

/-- The conjuncts of several units. -/
def conjunctsIn : List Value → List Value
  | [] => []
  | v :: rest => v.conjuncts ++ conjunctsIn rest
termination_by structural units => units

end

theorem conjunctsIn_eq_flatMap (units : List Value) :
    conjunctsIn units = units.flatMap Value.conjuncts := by
  induction units with
  | nil => rfl
  | cons u rest ih => rw [conjunctsIn, ih, List.flatMap_cons]

/-- A tree holds if its `conjuncts` do, by induction on the tree. -/
theorem Value.IsTree.holds_eq_all_conjuncts {u : Value} (tree : u.IsConditions) :
    u.holds truth n = u.conjuncts.all (·.holds truth n) := by
  induction tree with
  | comparison _ => simp [conjuncts]
  | @combination mark op parts _ _ ih =>
      rw [conjuncts]
      by_cases isAnd : op.compositeOperator? = some .and
      · rw [if_pos isAnd, conjunctsIn_eq_flatMap, List.all_flatMap, holds, isAnd, Option.any_some,
          CompositeOperator.holds, unitsHold_eq_map, List.all_map, Bool.eq_iff_iff,
          List.all_eq_true, List.all_eq_true]
        refine forall₂_congr fun p hp => ?_
        rw [Function.comp_apply, id_eq, ih p hp]
      · rw [if_neg isAnd, List.all_cons, List.all_nil, Bool.and_true]
  | object _ ih => exact ih

theorem all_holds_eq_all_conjuncts {units : List Value} (trees : ∀ u ∈ units, u.IsConditions) :
    units.all (·.holds truth n) = (conjunctsIn units).all (·.holds truth n) := by
  rw [conjunctsIn_eq_flatMap, List.all_flatMap, Bool.eq_iff_iff, List.all_eq_true,
    List.all_eq_true]
  exact forall₂_congr fun u hu => by rw [(trees u hu).holds_eq_all_conjuncts]

/-- Values each of which is mirrored are mirrored by a list of filters. -/
theorem Filter.exists_mirrors_of_forall {units : List Value}
    (each : ∀ u ∈ units, ∃ f : Filter Value, f.Mirrors n u) :
    ∃ fs, List.Forall₂ (Filter.Mirrors n) units fs := by
  induction units with
  | nil => exact ⟨[], .nil⟩
  | cons u rest ih =>
      obtain ⟨first, others⟩ := List.forall_mem_cons.mp each
      obtain ⟨f, mirrors⟩ := first
      obtain ⟨fs, mirrored⟩ := ih others
      exact ⟨f :: fs, .cons mirrors mirrored⟩

/-- What is mirrored by a list of filters is mirrored one by one. -/
theorem Filter.forall_mirrors_of_exists {units : List Value} {fs : List (Filter Value)}
    (each : List.Forall₂ (Filter.Mirrors n) units fs) :
    ∀ u ∈ units, ∃ f : Filter Value, f.Mirrors n u := by
  induction each with
  | nil => simp
  | cons mirrors _ ih => exact List.forall_mem_cons.mpr ⟨⟨_, mirrors⟩, ih⟩

/-- A combination is mirrored if its operator is one and its parts are mirrored. -/
theorem Filter.exists_mirrors_combination_iff {mark : Nat} {op : Value} {parts : List Value} :
    (∃ f : Filter Value, f.Mirrors n (.combination mark op parts)) ↔
      op.compositeOperator?.isSome = true ∧ ∀ p ∈ parts, ∃ f : Filter Value, f.Mirrors n p := by
  constructor
  · rintro ⟨_, mirrors⟩
    cases mirrors with
    | combination isOperator length each =>
        refine ⟨by rw [isOperator]; rfl, ?_⟩
        exact forall_mirrors_of_exists
          (List.forall₂_iff_zip.mpr ⟨length, fun pair => each _ _ pair⟩)
  · rintro ⟨isOperator, each⟩
    obtain ⟨operator, isOperator⟩ := Option.isSome_iff_exists.mp isOperator
    obtain ⟨fs, mirrored⟩ := exists_mirrors_of_forall each
    rw [List.forall₂_iff_zip] at mirrored
    exact ⟨_, .combination isOperator mirrored.1 fun _ _ pair => mirrored.2 pair⟩

/-- A tree compiles if its `conjuncts` do. So opening conjunctions cannot make a query compile that
did not, nor the other way round. -/
theorem Value.IsTree.exists_mirrors_iff {u : Value} (tree : u.IsConditions) :
    (∃ f : Filter Value, f.Mirrors n u) ↔ ∀ c ∈ u.conjuncts, ∃ f : Filter Value, f.Mirrors n c := by
  induction tree with
  | comparison _ => simp [conjuncts]
  | @combination mark op parts _ _ ih =>
      rw [conjuncts]
      by_cases isAnd : op.compositeOperator? = some .and
      · rw [if_pos isAnd, conjunctsIn_eq_flatMap, List.forall_mem_flatMap,
          Filter.exists_mirrors_combination_iff, isAnd, Option.isSome_some]
        simp only [true_and]
        exact forall₂_congr ih
      · rw [if_neg isAnd, List.forall_mem_singleton]
  | @object number look _ ih =>
      rw [conjuncts, ← ih]
      constructor
      · rintro ⟨f, mirrors⟩
        cases mirrors with
        | object seen => exact ⟨f, seen⟩
      · rintro ⟨f, mirrors⟩
        exact ⟨f, .object mirrors⟩

theorem Filter.exists_mirrors_iff_conjuncts {units : List Value}
    (trees : ∀ u ∈ units, u.IsConditions) :
    (∃ fs, List.Forall₂ (Filter.Mirrors n) units fs) ↔
      ∀ c ∈ conjunctsIn units, ∃ f : Filter Value, f.Mirrors n c := by
  rw [conjunctsIn_eq_flatMap, List.forall_mem_flatMap]
  constructor
  · rintro ⟨fs, mirrored⟩ u hu
    exact (trees u hu).exists_mirrors_iff.mp (forall_mirrors_of_exists mirrored u hu)
  · intro each
    exact exists_mirrors_of_forall fun u hu => (trees u hu).exists_mirrors_iff.mpr (each u hu)

/-! ## Joined conditions -/

namespace Condition

theorem isConditions_comparison {mark : Nat} {property op operand u : Value}
    (made : comparison mark property op operand = .ok u) : u.IsConditions := by
  obtain ⟨settled, -, made⟩ := bind_eq_ok_iff.mp made
  cases made
  exact .comparison trivial

theorem isConditions_ancestor (mark : Nat) (key : Value) : (ancestor mark key).IsConditions :=
  .comparison trivial

theorem isConditions_combination {mark : Nat} {op u : Value} {parts : List Value}
    (trees : ∀ p ∈ parts, p.IsConditions) (made : combination mark op parts = .ok u) :
    u.IsConditions := by
  unfold combination at made
  split at made
  · cases made
  · obtain ⟨settled, -, made⟩ := bind_eq_ok_iff.mp made
    cases made
    exact .combination trivial trees

/-- `Condition.join` of a condition and another tree is a tree, so everything that is built by `&`
and `|` is one. -/
theorem isConditions_join {mark : Nat} {joiner : Joiner} {left right u : Value}
    (isCondition : left.isCondition = true) (leftTree : left.IsConditions)
    (rightTree : right.IsConditions) (made : join mark joiner left right = .ok u) :
    u.IsConditions := by
  rw [join, if_pos isCondition] at made
  refine isConditions_combination (fun p hp => ?_) made
  simp only [List.mem_cons, List.not_mem_nil, or_false] at hp
  rcases hp with rfl | rfl
  · exact leftTree
  · exact rightTree

/-- A combination by a built-in operator is of that operator. -/
theorem combination_builtIn {mark : Nat} {op : CompositeOperator} {u : Value} {parts : List Value}
    (made : combination mark (.member (.composite op)) parts = .ok u) :
    u = .combination mark (.member (.composite op)) parts := by
  unfold combination at made
  split at made
  · cases made
  · have settled := Enumeration.settle_member (.composite op)
    rw [Member.enumeration] at settled
    rw [settled] at made
    cases made
    rfl

theorem conjuncts_and {mark : Nat} {u : Value} {parts : List Value}
    (made : combination mark (.member (.composite .and)) parts = .ok u) :
    u.conjuncts = conjunctsIn parts := by
  rw [combination_builtIn made, Value.conjuncts]
  exact if_pos rfl

/-- `&` puts the conjuncts of both sides one after the other, however they are nested. This ties the
operator to `Regrouped`. -/
theorem conjuncts_join {mark : Nat} {left right u : Value} (isCondition : left.isCondition = true)
    (made : join mark .both left right = .ok u) :
    u.conjuncts = left.conjuncts ++ right.conjuncts := by
  rw [join, if_pos isCondition] at made
  rw [conjuncts_and made, conjunctsIn, conjunctsIn, conjunctsIn, List.append_nil]

end Condition

/-! ## Queries -/

/-- Two lists of units with the same `conjunctsIn`, grouped in any way. -/
def Regrouped (units units' : List Value) : Prop :=
  ∀ c, c ∈ conjunctsIn units ↔ c ∈ conjunctsIn units'

/-- A compiled query means that every unit `holds`, for every `Interpretation`. It does so for every
other grouping of the `conjuncts` of the units, which compiles as well and means the same. -/
theorem Query.holds_compile {q : Query} {scope n : Value} {m : QueryMessage Value}
    (units : ∀ u ∈ q.filters, u.IsConditions) (effective : effectiveScope q.config scope = .ok n)
    (compiled : (q.compile scope).result = .ok m) :
    (∀ truth, m.holds truth = true ↔ ∀ u ∈ q.filters, u.holds truth n = true) ∧
      ∀ units', (∀ u ∈ units', u.IsConditions) → Regrouped q.filters units' →
        ∃ m', (Query.compile { q with filters := units' } scope).result = .ok m' ∧
          ∀ truth, m'.holds truth = m.holds truth := by
  have means : ∀ {units' : List Value} {fs : List (Filter Value)} {m' : QueryMessage Value},
      List.Forall₂ (Filter.Mirrors n) units' fs → m'.filter = Filter.compose fs →
      ∀ truth, m'.holds truth = units'.all (·.holds truth n) := by
    intro units' fs m' mirrored filter truth
    rw [QueryMessage.holds, filter, Filter.holds_compose, Filter.all_holds_of_mirrors mirrored]
  obtain ⟨fs, mirrored, filter⟩ := mirrors_of_compile units effective compiled
  refine ⟨fun truth => ?_, ?_⟩
  · rw [means mirrored filter, List.all_eq_true]
  · intro units' trees same
    -- A grouping compiles if every conjunct does, and the conjuncts are the same.
    have compilable := (Filter.exists_mirrors_iff_conjuncts units).mp ⟨fs, mirrored⟩
    obtain ⟨fs', mirrored'⟩ := (Filter.exists_mirrors_iff_conjuncts trees).mpr fun c hc =>
      compilable c ((same c).mpr hc)
    have compiles := compilesAs_of_compile effective compiled
    have described := describe_of_compile effective compiled
    -- Apart from the filter, the message does not depend on the units.
    have regrouped : CompilesAs { q with filters := units' } n
        { m with filter := Filter.compose fs' } :=
      { compiles with filter := ⟨fs', (forall₂_compilesTo_iff_mirrors trees).mpr mirrored', rfl⟩ }
    have effective' : effectiveScope (QueryState.config { q with filters := units' }) scope =
      .ok n := effective
    refine ⟨_, (compile_eq_ok_iff effective' described _).mpr regrouped, fun truth => ?_⟩
    rw [means mirrored' rfl, means mirrored filter, all_holds_eq_all_conjuncts trees,
      all_holds_eq_all_conjuncts units, Bool.eq_iff_iff, List.all_eq_true, List.all_eq_true]
    exact forall_congr' fun c => by rw [same c]

/-- A conjunction of a comparison and a disjunction means the same as the two of them, one after
the other. -/
theorem Query.holds_compile_conjunction :
    let compare (mark : Nat) (own : Value) : Value :=
      .comparison mark false (.text "team") (.member (.property .equal))
        (.key (.tuple [.tuple [.text "Team", .text "spurs"]]) own)
    let either : Value :=
      .combination 3 (.member (.composite .or)) [compare 1 .none, compare 2 (.text "a")]
    let q : Query := { Query.new .none with
      filters := [.combination 5 (.member (.composite .and)) [compare 4 (.text "b"), either]] }
    ∃ m, ((∀ u ∈ q.filters, u.IsConditions) ∧
        effectiveScope q.config (.text "n") = .ok (.text "n") ∧
        (q.compile (.text "n")).result = .ok m) ∧
      (∀ truth, m.holds truth = true ↔ ∀ u ∈ q.filters, u.holds truth (.text "n") = true) ∧
      ∃ m', (Query.compile { q with filters := [compare 4 (.text "b"), either] }
          (.text "n")).result = .ok m' ∧
        ∀ truth, m'.holds truth = m.holds truth := by
  intro compare either q
  have tree : either.IsConditions := by
    refine .combination trivial fun p hp => ?_
    simp only [List.mem_cons, List.not_mem_nil, or_false] at hp
    rcases hp with rfl | rfl <;> exact .comparison trivial
  have trees : ∀ u ∈ [compare 4 (.text "b"), either], u.IsConditions := by
    simp only [List.forall_mem_cons, List.not_mem_nil, false_implies, implies_true, and_true]
    exact ⟨.comparison trivial, tree⟩
  have units : ∀ u ∈ q.filters, u.IsConditions := by
    intro u hu
    obtain rfl := List.mem_singleton.mp hu
    exact .combination trivial trees
  have effective : effectiveScope q.config (.text "n") = .ok (.text "n") := rfl
  have succeeds : ∃ m, (q.compile (.text "n")).result = .ok m := ⟨_, rfl⟩
  obtain ⟨m, compiled⟩ := succeeds
  have regrouped : Regrouped q.filters [compare 4 (.text "b"), either] := fun _ => Iff.rfl
  obtain ⟨means, same⟩ := holds_compile units effective compiled
  exact ⟨m, ⟨units, effective, compiled⟩, means, same _ trees regrouped⟩

end EntityQuery
