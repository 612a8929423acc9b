import EntityQuery.Proofs.ComparisonFault
import EntityQuery.Proofs.Visits

/-!
# Trees in post-order

A tree of conditions is compiled from the leaves on: the parts of a combination one after another,
and then the combination itself. So it compiles if all of its nodes are in order, each for itself,
and otherwise the first node in post-order that is not has the failure.

* `Value.NodeFault` is what may be wrong with a node of a tree. Of a combination that is its
  operator only; its parts are nodes of their own.
* `Value.IsTree.failsBy` goes through the nodes, and `failsBy_compileParts` through the parts of a
  combination.
* `Value.IsTree.compile_postOrder` is about the tree as a whole.
-/

namespace EntityQuery

variable {n : Value}

/-! ## Nodes -/

/-- Why a node of a tree is not compiled for a namespace once all nodes before it are:
`ComparisonFault` for a comparison, and the operator for a combination. -/
inductive Value.NodeFault (n : Value) : Value → Failure → Prop where
  | comparison {mark : Nat} {isAncestor : Bool} {property op operand : Value} {e : Failure}
      (fault : ComparisonFault n property op operand e) :
      NodeFault n (.comparison mark isAncestor property op operand) e
  | operator {mark : Nat} {op : Value} {parts : List Value}
      (notOperator : op.compositeOperator? = Option.none)
      (described : op.lookUpFailure? = Option.none) :
      NodeFault n (.combination mark op parts)
        (.invalid .compositeFilter [⟨[.key "op"], .memberExpected .compositeOperator⟩])
  | undescribed {mark : Nat} {op : Value} {parts : List Value} {e : Failure}
      (notOperator : op.compositeOperator? = Option.none) (failed : op.lookUpFailure? = some e) :
      NodeFault n (.combination mark op parts) e

/-- A comparison is at fault if it does not compile. -/
theorem Value.nodeFault_comparison_iff {mark : Nat} {isAncestor : Bool}
    {property op operand : Value} {e : Failure} :
    NodeFault n (.comparison mark isAncestor property op operand) e ↔
      ((Value.comparison mark isAncestor property op operand).compile n).result = .error e := by
  rw [compile_comparison_result, map_eq_error_iff, compileComparison_eq_error_iff]
  constructor
  · intro fault
    cases fault with
    | comparison fault => exact fault
  · exact .comparison

/-- `compileCombination` of filters fails by its operator only, which is described for the
complaint. -/
theorem compileCombination_eq_error_iff {op : Value} {fs : List (Filter Value)} {e : Failure} :
    compileCombination op (fs.map Filter.asAnswer) = .error e ↔
      op.compositeOperator? = none ∧ (op.lookUpFailure? = some e ∨ op.lookUpFailure? = none ∧
        e = .invalid .compositeFilter [⟨[.key "op"], .memberExpected .compositeOperator⟩]) := by
  have made := compileCombination_filters op fs
  change compileCombination op (fs.map Filter.asAnswer) = _ at made
  rw [made, map_eq_error_iff, checkCompositeOperator, checkMember, Value.compositeOperator?]
  cases op.spelling?.bind CompositeOperator.ofSpelling? with
  | some operator => simp [Checked.orInvalid]
  | none =>
      cases op.lookUpFailure? <;>
        simp [Checked.complain, Checked.under, Problem.under, Checked.orInvalid, eq_comm]

/-- The fault of a combination does not depend on the filters of its parts, so `NodeFault` need not
know them. -/
theorem Value.nodeFault_combination_iff {mark : Nat} {op : Value} {parts : List Value}
    (fs : List (Filter Value)) {e : Failure} :
    NodeFault n (.combination mark op parts) e ↔
      compileCombination op (fs.map Filter.asAnswer) = .error e := by
  rw [compileCombination_eq_error_iff]
  constructor
  · intro fault
    cases fault with
    | operator notOperator described => exact ⟨notOperator, .inr ⟨described, rfl⟩⟩
    | undescribed notOperator failed => exact ⟨notOperator, .inl failed⟩
  · intro ⟨notOperator, fault⟩
    obtain failed | ⟨described, rfl⟩ := fault
    · exact .undescribed notOperator failed
    · exact .operator notOperator described

/-- There is something wrong with a combination exactly if its operator is none. -/
theorem Value.exists_nodeFault_combination_iff {mark : Nat} {op : Value} {parts : List Value} :
    (∃ e, NodeFault n (.combination mark op parts) e) ↔
      ∀ operator, op.compositeOperator? ≠ some operator := by
  rw [← Option.eq_none_iff_forall_ne_some]
  constructor
  · intro ⟨e, fault⟩
    cases fault <;> assumption
  · intro notOperator
    cases described : op.lookUpFailure? with
    | none => exact ⟨_, .operator notOperator described⟩
    | some e => exact ⟨e, .undescribed notOperator described⟩

/-! ## Trees -/

/-- `compileParts` fails by the first node in the parts that is at fault, part after part with
`FailsBy.bind`. -/
theorem failsBy_compileParts {parts : List Value}
    (each : ∀ p ∈ parts, FailsBy (Value.NodeFault n) p.nodes (p.compile n).result) :
    FailsBy (Value.NodeFault n) (nodesIn parts) (compileParts parts n).result := by
  induction parts with
  | nil => exact .ok []
  | cons p rest ih =>
      obtain ⟨first, others⟩ := List.forall_mem_cons.mp each
      rw [compileParts_cons_result, nodesIn]
      refine first.bind fun answer _ => ?_
      rw [bind_pure_comp]
      exact (ih others).map _

/-- The parts of a tree answer filters that mirror them. -/
theorem exists_filters_of_compileParts {parts answers : List Value}
    (trees : ∀ p ∈ parts, p.IsConditions) (compiled : (compileParts parts n).result = .ok answers) :
    ∃ fs : List (Filter Value), answers = fs.map Filter.asAnswer ∧
      List.Forall₂ (Filter.Mirrors n) parts fs := by
  rw [compileParts_eq_ok_iff, List.forall₂_iff_zip] at compiled
  refine exists_filters_of_answers (List.forall₂_iff_zip.mpr ⟨compiled.1, fun pair => ?_⟩)
  exact (trees _ (List.of_mem_zip pair).1).mirrors_of_compile (compiled.2 pair)

/-- A tree fails by its first node in `nodes`, that is in post-order, that is at fault. By induction
on the tree. -/
theorem Value.IsTree.failsBy {u : Value} (tree : u.IsConditions) :
    FailsBy (NodeFault n) u.nodes (u.compile n).result := by
  induction tree with
  | comparison _ =>
      intro e
      show _ ↔ FirstFault _ [_] e
      rw [firstFault_singleton, nodeFault_comparison_iff]
  | @combination mark op parts _ each ih =>
      rw [compile_combination_result, nodes]
      refine (failsBy_compileParts ih).bind fun answers compiled e => ?_
      obtain ⟨fs, rfl, -⟩ := exists_filters_of_compileParts each compiled
      rw [map_eq_error_iff, firstFault_singleton, nodeFault_combination_iff fs]
  | object _ ih => exact ih

/-- A tree compiles if each comparison among its `nodes` does and each combination has an
operator. What it compiles to `Mirrors` it, with a composite filter for every combination and a
property filter for every comparison. Otherwise it fails by the first node in post-order that is
at fault: a comparison that does not compile, or a combination without an operator all of whose
parts compile. -/
theorem Value.IsTree.compile_postOrder {u : Value} (tree : u.IsConditions) (n : Value) :
    ((∃ answer, (u.compile n).result = .ok answer) ↔
      (∀ mark isAncestor property op operand,
        .comparison mark isAncestor property op operand ∈ u.nodes →
          ∃ answer, ((Value.comparison mark isAncestor property op operand).compile n).result =
            .ok answer) ∧
      ∀ mark op parts, .combination mark op parts ∈ u.nodes →
        ∃ operator, op.compositeOperator? = some operator) ∧
    (∀ answer, (u.compile n).result = .ok answer ↔
      ∃ f : Filter Value, answer = f.asAnswer ∧ f.Mirrors n u) ∧
    ∀ e, (u.compile n).result = .error e ↔ FirstFault (NodeFault n) u.nodes e := by
  refine ⟨?_, fun answer => ⟨tree.mirrors_of_compile, ?_⟩, tree.failsBy⟩
  · rw [tree.failsBy.exists_eq_ok_iff]
    constructor
    · intro fair
      refine ⟨fun mark isAncestor property op operand node => ?_, fun mark op parts node => ?_⟩
      · cases compiled :
            ((Value.comparison mark isAncestor property op operand).compile n).result with
        | ok answer => exact ⟨answer, rfl⟩
        | error e => exact absurd (nodeFault_comparison_iff.mpr compiled) (fair _ node e)
      · by_contra notOperator
        obtain ⟨e, fault⟩ := exists_nodeFault_combination_iff.mpr (not_exists.mp notOperator)
        exact fair _ node e fault
    -- A fault is one of a comparison or of an operator, and both are ruled out.
    · intro ⟨leaves, operators⟩ v node e fault
      cases fault with
      | @comparison mark isAncestor _ _ _ _ fault =>
          obtain ⟨answer, compiled⟩ := leaves _ _ _ _ _ node
          rw [nodeFault_comparison_iff.mp (.comparison fault)] at compiled
          cases compiled
      | operator notOperator _ | undescribed notOperator _ =>
          obtain ⟨operator, isOperator⟩ := operators _ _ _ node
          rw [notOperator] at isOperator
          cases isOperator
  · intro ⟨f, isAnswer, mirrors⟩
    rw [isAnswer]
    exact mirrors.compile

/-- A nameless comparison decides, though its operator and its operand are no better, the
combination around it has no operator, and a later comparison fails too. A combination without an
operator decides once its parts have compiled. With better arguments all of it compiles. -/
theorem Value.IsTree.compile_postOrder_nameless :
    let n : Value := .text "n"
    let good : Value := .comparison 1 false (.text "a") (.member (.property .equal))
      (.mapping [(.text "integerValue", .text "1")])
    let nameless : Value := .comparison 2 false (.int 5) (.text "?") (.int 6)
    let late : Value := .comparison 3 false (.text "a") (.text "?") (.int 6)
    let inner : Value := .combination 4 (.text "?") [good, nameless]
    let outer : Value := .combination 5 (.member (.composite .and)) [good, inner, late]
    let aimless : Value := .combination 6 (.text "?") [good]
    let sound : Value := .combination 7 (.text "OR") [good, .combination 8 (.text "AND") [good]]
    (outer.IsConditions ∧ aimless.IsConditions ∧ sound.IsConditions) ∧
    (outer.compile n).result = .error (nameFault .propertyReference (.int 5)) ∧
    (aimless.compile n).result =
      .error (.invalid .compositeFilter [⟨[.key "op"], .memberExpected .compositeOperator⟩]) ∧
    ∃ f : Filter Value, (sound.compile n).result = .ok f.asAnswer ∧ f.Mirrors n sound := by
  intro n good nameless late inner outer aimless sound
  have goodTree : good.IsConditions := .comparison trivial
  have innerTree : inner.IsConditions :=
    .combination trivial (by simpa using ⟨goodTree, .comparison trivial⟩)
  have outerTree : outer.IsConditions :=
    .combination trivial (by simpa using ⟨goodTree, innerTree, .comparison trivial⟩)
  have aimlessTree : aimless.IsConditions := .combination trivial (by simpa using goodTree)
  have soundTree : sound.IsConditions :=
    .combination trivial (by simpa using ⟨goodTree, .combination trivial (by simpa using goodTree)⟩)
  have compiles : ∃ f, (good.compile n).result = .ok f := ⟨_, rfl⟩
  have fair : ∀ e, ¬ NodeFault n good e := by
    intro e fault
    obtain ⟨f, compiled⟩ := compiles
    rw [nodeFault_comparison_iff.mp fault] at compiled
    cases compiled
  refine ⟨⟨outerTree, aimlessTree, soundTree⟩, ?_, ?_, ?_⟩
  · refine ((outerTree.compile_postOrder n).2.2 _).mpr ?_
    exact ⟨[good, good], nameless, [inner, late, outer], rfl, by simpa using fair,
      .comparison (.property rfl)⟩
  · refine ((aimlessTree.compile_postOrder n).2.2 _).mpr ?_
    exact ⟨[good], aimless, [], rfl, by simpa using fair, .operator rfl rfl⟩
  · have mirrored := (soundTree.compile_postOrder n).2.1
    obtain ⟨answer, compiled⟩ : ∃ answer, (sound.compile n).result = .ok answer := ⟨_, rfl⟩
    obtain ⟨f, rfl, mirrors⟩ := (mirrored answer).mp compiled
    exact ⟨f, compiled, mirrors⟩

/-- Pairs of keys and values are no mapping and do not encode themselves. Still `toEntries` reads
them as one, so that a comparison with them compiles. -/
theorem Value.compile_pairs_eq_ok :
    let pairs : Value := .list [.list [.text "stringValue", .text "x"]]
    let leaf : Value := .comparison 1 false (.text "a") (.member (.property .equal)) pairs
    leaf.IsConditions ∧ pairs.isScoped = false ∧ (∀ entries, pairs.content ≠ .mapping entries) ∧
      (leaf.compile .none).result = .ok (.message (.filter (.property
        ⟨⟨"a"⟩, .equal, [("stringValue", .text "x")], Option.none⟩))) ∧
      ¬ ∃ e, pairs.toEntries = .error e ∧ (leaf.compile .none).result = .error e := by
  intro pairs leaf
  have compiled : (leaf.compile .none).result = .ok (.message (.filter (.property
      ⟨⟨"a"⟩, .equal, [("stringValue", .text "x")], Option.none⟩))) := rfl
  refine ⟨.comparison trivial, rfl, ?_, compiled, ?_⟩
  · intro entries isMapping
    cases isMapping
  · intro ⟨e, _, failed⟩
    rw [compiled] at failed
    cases failed

end EntityQuery
