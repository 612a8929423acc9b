import Mathlib.Data.List.Forall2
import EntityQuery.Proofs.Acceptance

/-!
# The filter of a tree

A tree of conditions compiles to a filter of its own shape. Nothing is dropped, flattened or put
in another order: there is a property filter for every comparison and a composite filter for every
combination, with as many parts.

* `PropertyFilter.Compares` is the property filter of a comparison: its property and its operator
  as they are read, and its operand as it is encoded for the namespace.
* `Filter.Mirrors` is the filter of a tree. `compilesTo_iff_mirrors` says that it is what the tree
  compiles to, if the tree compiles at all.
* `Filter.Mirrors.leaves` goes through the leaves of both, from left to right.
-/

namespace EntityQuery

/-! ## Comparisons -/

/-- The property operator that a value is, or spells. `checkMember` accepts both. -/
def Value.propertyOperator? (v : Value) : Option PropertyOperator :=
  v.spelling?.bind PropertyOperator.ofSpelling?

/-- The composite operator that a value is, or spells. -/
def Value.compositeOperator? (v : Value) : Option CompositeOperator :=
  v.spelling?.bind CompositeOperator.ofSpelling?

/-- The mapping that an operand is encoded as for a namespace, by its texts: `encode` and then
`checkMapping`, with every failure forgotten. -/
def Value.resolved? (operand n : Value) : Option (List (String × Value)) :=
  (operand.encode n).toOption.bind fun v => (checkMapping v).toOption

/-- `PropertyFilter.make` succeeds for just the fields that can be read, and the message it makes is
not one that was there before. -/
theorem PropertyFilter.make_eq_ok_iff {reference : PropertyReference} {op value : Value}
    {m : PropertyFilter Value} :
    make reference op value = .ok m ↔
      m.property = reference ∧ op.propertyOperator? = some m.op ∧
        checkMapping value = .ok m.value ∧ m.mark = none := by
  rw [make_eq, Checked.orInvalid_eq_ok_iff]
  simp only [Checked.and_eq_ok, Checked.under_eq_ok, checkPropertyOperator, checkMember_eq_ok_iff]
  constructor
  · rintro ⟨_, _, ⟨_, _, made, op, rfl⟩, value, rfl⟩
    cases made
    exact ⟨rfl, op, value, rfl⟩
  · intro h
    obtain ⟨_, o, fields, mark⟩ := m
    obtain ⟨rfl, op, value, rfl⟩ := h
    exact ⟨_, fields, ⟨_, o, rfl, op, rfl⟩, value, rfl⟩

/-- The property filter that a comparison compiles to for a namespace, as a relation between fields.
There is no failure in it to be taken apart. -/
structure PropertyFilter.Compares (n property op operand : Value) (m : PropertyFilter Value) :
    Prop where
  property : property.spelling? = some m.property.name
  op : op.propertyOperator? = some m.op
  value : operand.resolved? n = some m.value
  mark : m.mark = none

/-- What an operand is resolved to is what it is encoded as. -/
theorem Value.resolved?_eq_some_iff {n operand : Value} {fields : List (String × Value)} :
    operand.resolved? n = some fields ↔
      ∃ v, operand.encode n = .ok v ∧ checkMapping v = .ok fields := by
  have read : ∀ v, (checkMapping v).toOption = some fields ↔ checkMapping v = .ok fields := by
    intro v
    cases checkMapping v <;> simp [Except.toOption]
  unfold resolved?
  cases operand.encode n with
  | error e => simp [Except.toOption]
  | ok v => simpa [Except.toOption] using read v

/-- `compileComparison` finds the filter that `Compares`, and there is at most one. -/
theorem compileComparison_eq_ok_iff {property op operand n : Value} {f : Filter Value} :
    compileComparison property op operand n = .ok f ↔
      ∃ m, f = .property m ∧ PropertyFilter.Compares n property op operand m := by
  simp only [compileComparison, bind_eq_ok_iff, PropertyReference.make_eq_ok_iff,
    PropertyFilter.make_eq_ok_iff]
  constructor
  · rintro ⟨reference, isNamed, v, encoded, m, ⟨rfl, isOperator, isMapping, mark⟩, made⟩
    cases made
    exact ⟨m, rfl, isNamed, isOperator, Value.resolved?_eq_some_iff.mpr ⟨v, encoded, isMapping⟩,
      mark⟩
  · rintro ⟨m, rfl, isNamed, isOperator, value, mark⟩
    obtain ⟨v, encoded, isMapping⟩ := Value.resolved?_eq_some_iff.mp value
    exact ⟨m.property, isNamed, v, encoded, m, ⟨rfl, isOperator, isMapping, mark⟩, rfl⟩

/-! ## Trees -/

/-- A tree of conditions, whatever the arguments are that they were made of. -/
abbrev Value.IsConditions (v : Value) : Prop := v.IsTree (fun _ _ _ => True) fun _ => True

/-- The filter that a tree compiles to for a namespace: `Compares` at the leaves, the operator and
the parts in order at the nodes. It does not mention `compile`, so what follows from it needs no
trace. -/
inductive Filter.Mirrors (n : Value) : Value → Filter Value → Prop where
  | comparison {mark : Nat} {isAncestor : Bool} {property op operand : Value}
      {m : PropertyFilter Value} (compares : m.Compares n property op operand) :
      Mirrors n (.comparison mark isAncestor property op operand) (.property m)
  | combination {mark : Nat} {op : Value} {parts : List Value} {operator : CompositeOperator}
      {fs : List (Filter Value)} (isOperator : op.compositeOperator? = some operator)
      (length : parts.length = fs.length)
      (each : ∀ p f, (p, f) ∈ parts.zip fs → Mirrors n p f) :
      Mirrors n (.combination mark op parts) (.composite operator fs none)
  | object {number : Nat} {look : Unit → Value} {f : Filter Value}
      (seen : Mirrors n (look ()) f) : Mirrors n (.object number look) f

/-- The answer of a unit that compiles to a filter. -/
def Filter.asAnswer (f : Filter Value) : Value := .message (.filter f)

theorem compileParts_eq_ok_iff {parts answers : List Value} {n : Value} :
    (compileParts parts n).result = .ok answers ↔
      List.Forall₂ (fun p answer => (p.compile n).result = .ok answer) parts answers := by
  induction parts generalizing answers with
  | nil =>
      constructor
      · intro compiled
        cases compiled
        exact .nil
      · intro each
        cases each
        rfl
  | cons p rest ih =>
      rw [compileParts_cons_result]
      simp only [bind_eq_ok_iff, ih]
      constructor
      · rintro ⟨answer, first, answers, others, made⟩
        cases made
        exact .cons first others
      · intro each
        cases each with
        | cons first others => exact ⟨_, first, _, others, rfl⟩

/-- `compileCombination` of answers that are filters, read backwards. -/
theorem compileCombination_eq_ok_iff {op : Value} {fs : List (Filter Value)} {f : Filter Value} :
    compileCombination op (fs.map Filter.asAnswer) = .ok f ↔
      ∃ operator, op.compositeOperator? = some operator ∧ f = .composite operator fs none := by
  have made := compileCombination_filters op fs
  change compileCombination op (fs.map Filter.asAnswer) = _ at made
  have checked : ∀ operator,
      Checked.orInvalid .compositeFilter (Checked.under (.key "op") (checkCompositeOperator op)) =
        .ok operator ↔ op.compositeOperator? = some operator := by
    intro operator
    rw [Checked.orInvalid_eq_ok_iff, Checked.under_eq_ok, checkCompositeOperator,
      checkMember_eq_ok_iff]
    rfl
  rw [made, map_eq_ok_iff]
  refine exists_congr fun operator => ?_
  rw [checked]
  refine and_congr_right fun _ => ?_
  constructor
  · intro same
    cases same
    rfl
  · rintro rfl
    rfl

/-- Parts that answer filters that mirror them answer the filters of one list. -/
theorem exists_filters_of_answers {n : Value} {parts answers : List Value}
    (each : List.Forall₂ (fun p answer => ∃ f : Filter Value, answer = f.asAnswer ∧ f.Mirrors n p)
      parts answers) :
    ∃ fs : List (Filter Value), answers = fs.map Filter.asAnswer ∧
      List.Forall₂ (Filter.Mirrors n) parts fs := by
  induction each with
  | nil => exact ⟨[], rfl, .nil⟩
  | cons first _ ih =>
      obtain ⟨f, rfl, mirrors⟩ := first
      obtain ⟨fs, rfl, others⟩ := ih
      exact ⟨f :: fs, rfl, .cons mirrors others⟩

/-- What a tree compiles to mirrors it, by induction on the tree. Parts of a combination answer
before the combination is made, so their filters are there by then. -/
theorem Value.IsTree.mirrors_of_compile {u n answer : Value} (tree : u.IsConditions)
    (compiled : (u.compile n).result = .ok answer) :
    ∃ f : Filter Value, answer = f.asAnswer ∧ f.Mirrors n u := by
  induction tree generalizing answer with
  | comparison _ =>
      rw [compile_comparison_result] at compiled
      obtain ⟨f, found, rfl⟩ := map_eq_ok_iff.mp compiled
      obtain ⟨m, rfl, compares⟩ := compileComparison_eq_ok_iff.mp found
      exact ⟨_, rfl, .comparison compares⟩
  | @combination mark op parts _ _ ih =>
      rw [compile_combination_result, bind_eq_ok_iff] at compiled
      obtain ⟨answers, compiled, made⟩ := compiled
      -- The hypothesis of the induction is about a part and its answer, so they are paired first.
      rw [compileParts_eq_ok_iff, List.forall₂_iff_zip] at compiled
      have mirrored := List.forall₂_iff_zip.mpr ⟨compiled.1, fun pair =>
        ih _ (List.of_mem_zip pair).1 (compiled.2 pair)⟩
      obtain ⟨fs, rfl, parallel⟩ := exists_filters_of_answers mirrored
      obtain ⟨f, combined, rfl⟩ := map_eq_ok_iff.mp made
      obtain ⟨operator, isOperator, rfl⟩ := compileCombination_eq_ok_iff.mp combined
      rw [List.forall₂_iff_zip] at parallel
      exact ⟨_, rfl, .combination isOperator parallel.1 fun p f pair => parallel.2 pair⟩
  | object _ ih =>
      obtain ⟨f, isAnswer, mirrors⟩ := ih compiled
      exact ⟨f, isAnswer, .object mirrors⟩

/-- A tree that is mirrored compiles to its mirror, by induction on `Mirrors`. -/
theorem Filter.Mirrors.compile {u n : Value} {f : Filter Value} (mirrors : f.Mirrors n u) :
    (u.compile n).result = .ok f.asAnswer := by
  -- By induction on the mirror, as its parts are filters already and need no answers.
  induction mirrors with
  | comparison compares =>
      rw [Value.compile_comparison_result, compileComparison_eq_ok_iff.mpr ⟨_, rfl, compares⟩]
      rfl
  | @combination mark op parts operator fs isOperator length each ih =>
      have compiled : (compileParts parts n).result = .ok (fs.map Filter.asAnswer) := by
        rw [compileParts_eq_ok_iff, List.forall₂_map_right_iff, List.forall₂_iff_zip]
        exact ⟨length, fun pair => ih _ _ pair⟩
      rw [Value.compile_combination_result, compiled]
      show (Value.message ∘ Message.filter) <$> compileCombination op (fs.map Filter.asAnswer) = _
      rw [compileCombination_eq_ok_iff.mpr ⟨operator, isOperator, rfl⟩]
      rfl
  | object _ ih => exact ih

/-- So for trees of conditions `CompilesTo`, which is about a run of the program, is `Mirrors`,
which is about two trees. -/
theorem compilesTo_iff_mirrors {u n : Value} (tree : u.IsConditions) {f : Filter Value} :
    CompilesTo n u f ↔ f.Mirrors n u := by
  constructor
  · rintro ⟨-, answer, answers, isFilter⟩
    obtain ⟨g, rfl, mirrors⟩ := tree.mirrors_of_compile answers
    cases isFilter
    exact mirrors
  · intro mirrors
    exact ⟨tree.isCompilable, f.asAnswer, mirrors.compile, rfl⟩

theorem forall₂_compilesTo_iff_mirrors {units : List Value} {n : Value}
    {fs : List (Filter Value)} (trees : ∀ u ∈ units, u.IsConditions) :
    List.Forall₂ (CompilesTo n) units fs ↔ List.Forall₂ (Filter.Mirrors n) units fs := by
  rw [List.forall₂_iff_zip, List.forall₂_iff_zip]
  refine and_congr_right fun _ => forall₂_congr fun u f => ?_
  refine imp_congr_right fun pair => ?_
  exact compilesTo_iff_mirrors (trees u (List.of_mem_zip pair).1)

/-! ## Builders -/

/-- The filter of a compiled query is `Filter.compose` of mirrors of the units. The theorems on
tenants and on meaning both start here. -/
theorem Query.mirrors_of_compile {q : Query} {scope n : Value} {m : QueryMessage Value}
    (units : ∀ u ∈ q.filters, u.IsConditions) (effective : effectiveScope q.config scope = .ok n)
    (compiled : (q.compile scope).result = .ok m) :
    ∃ fs, List.Forall₂ (Filter.Mirrors n) q.filters fs ∧ m.filter = Filter.compose fs := by
  obtain ⟨fs, each, filter⟩ := (compilesAs_of_compile effective compiled).filter
  exact ⟨fs, (forall₂_compilesTo_iff_mirrors units).mp each, filter⟩

/-! ## Leaves -/

mutual

/-- The property filters in a filter, from left to right. -/
def Filter.leaves : Filter Value → List (PropertyFilter Value)
  | .property m => [m]
  | .composite _ filters _ => leavesOfFilters filters
termination_by structural f => f

/-- The property filters in filters, from left to right. -/
def leavesOfFilters : List (Filter Value) → List (PropertyFilter Value)
  | [] => []
  | f :: rest => f.leaves ++ leavesOfFilters rest
termination_by structural filters => filters

end

theorem leavesOfFilters_eq_flatMap (filters : List (Filter Value)) :
    leavesOfFilters filters = filters.flatMap Filter.leaves := by
  induction filters with
  | nil => rfl
  | cons f rest ih => rw [leavesOfFilters, ih, List.flatMap_cons]

/-- A comparison of a property with an operand. -/
structure Comparison where
  property : Value
  op : Value
  operand : Value

mutual

/-- The comparisons in a unit, from left to right. -/
def Value.comparisons : Value → List Comparison
  | .comparison _ _ property op operand => [⟨property, op, operand⟩]
  | .combination _ _ parts => comparisonsIn parts
  | .object _ look => (look ()).comparisons
  | _ => []
termination_by structural v => v

/-- The comparisons in units, from left to right. -/
def comparisonsIn : List Value → List Comparison
  | [] => []
  | v :: rest => v.comparisons ++ comparisonsIn rest
termination_by structural parts => parts

end

theorem comparisonsIn_eq_flatMap (units : List Value) :
    comparisonsIn units = units.flatMap Value.comparisons := by
  induction units with
  | nil => rfl
  | cons u rest ih => rw [comparisonsIn, ih, List.flatMap_cons]

/-- `Filter.leaves` of a mirror are the `comparisons` of the unit, one by one and in order. -/
theorem Filter.Mirrors.leaves {u n : Value} {f : Filter Value} (mirrors : f.Mirrors n u) :
    List.Forall₂ (fun (c : Comparison) m =>
      PropertyFilter.Compares n c.property c.op c.operand m) u.comparisons f.leaves := by
  induction mirrors with
  | comparison compares => exact .cons compares .nil
  | combination _ length _ ih =>
      rw [Value.comparisons, Filter.leaves, comparisonsIn_eq_flatMap, leavesOfFilters_eq_flatMap]
      have parts := List.forall₂_iff_zip.mpr ⟨length, fun pair => ih _ _ pair⟩
      exact List.rel_flatMap parts fun _ _ leaves => leaves
  | object _ ih => exact ih

end EntityQuery
