import EntityQuery.Proofs.Compilation

/-!
# What a namespace can change

A builder is compiled for one namespace and then for another. The namespace may reach the message
through keys that are not pinned to one of their own, and through nothing else.

* `SameOutcome` compares two runs: both fail, in the same way, or both succeed with related
  results. It is closed under everything that compilation does.
* `Filter.Parallel` relates the two filters of a unit. They are the same filter, except where the
  unit compares with an unpinned key, and there the partition of the key is all that differs.
* `Value.compile_tree_parallel` is the induction over trees of conditions, and
  `Query.compile_parallel` the statement about builders.
-/

namespace EntityQuery

/-! ## Two runs -/

/-- Two outcomes: the same failure, or results that are related. Equality of results is too much to
ask where partitions differ, and `Except.toOption` would lose the failures. -/
inductive SameOutcome {ε α β : Type} (related : α → β → Prop) :
    Except ε α → Except ε β → Prop where
  | ok {a : α} {b : β} (results : related a b) : SameOutcome related (.ok a) (.ok b)
  | error (e : ε) : SameOutcome related (.error e) (.error e)

namespace SameOutcome

variable {ε α β γ δ : Type} {related : α → β → Prop} {related' : γ → δ → Prop}

/-- `SameOutcome` is kept by `>>=`, so a proof about two compilations follows the stages of one. -/
theorem bind {x : Except ε α} {y : Except ε β} {f : α → Except ε γ} {g : β → Except ε δ}
    (first : SameOutcome related x y)
    (second : ∀ a b, related a b → SameOutcome related' (f a) (g b)) :
    SameOutcome related' (x >>= f) (y >>= g) := by
  cases first with
  | ok results => exact second _ _ results
  | error e => exact .error e

/-- Two computations after the same one have the same outcome if they have it for its result. -/
theorem bind_same {f : α → Except ε γ} {g : α → Except ε δ}
    (second : ∀ a, SameOutcome related' (f a) (g a)) (x : Except ε α) :
    SameOutcome related' (x >>= f) (x >>= g) := by
  cases x with
  | ok a => exact second a
  | error e => exact .error e

/-- What is made of the same outcome in two ways. -/
theorem map_same {f : α → γ} {g : α → δ} (results : ∀ a, related' (f a) (g a))
    (x : Except ε α) : SameOutcome related' (f <$> x) (g <$> x) := by
  cases x with
  | ok a => exact .ok (results a)
  | error e => exact .error e

theorem map {x : Except ε α} {y : Except ε β} {f : α → γ} {g : β → δ}
    (outcome : SameOutcome related x y) (results : ∀ a b, related a b → related' (f a) (g b)) :
    SameOutcome related' (f <$> x) (g <$> y) := by
  cases outcome with
  | ok h => exact .ok (results _ _ h)
  | error e => exact .error e

end SameOutcome

/-- A field is checked in the same way in both runs. -/
theorem Checked.and_sameOutcome {α β γ : Type} {related : β → γ → Prop}
    {f : Checked (α → β)} {g : Checked (α → γ)}
    (outcome : SameOutcome (fun f g => ∀ a, related (f a) (g a)) f g) (field : Checked α) :
    SameOutcome related (f.and field) (g.and field) := by
  cases outcome with
  | ok results =>
      rcases field with refusal | a
      · exact .error refusal
      · exact .ok (results a)
  | error refusal =>
      rcases refusal with found | e <;> rcases field with (found' | e') | a <;>
        exact .error _

/-- The failure is that of the class in both runs. -/
theorem Checked.orInvalid_sameOutcome {α β : Type} {related : α → β → Prop} {x : Checked α}
    {y : Checked β} (cls : MessageClass) (outcome : SameOutcome related x y) :
    SameOutcome related (x.orInvalid cls) (y.orInvalid cls) := by
  cases outcome with
  | ok results => exact .ok results
  | error refusal => cases refusal <;> exact .error _

/-! ## Operands -/

/-- An operand that is a mapping or a key. -/
def Value.IsOperand (v : Value) : Prop :=
  (∃ entries, v.content = .mapping entries) ∨ ∃ path own, v.content = .key path own

/-- A key that is pinned to no namespace. Only such a value makes use of the namespace in
`Value.encode`. -/
def Value.IsUnpinned (v : Value) : Prop :=
  ∃ path own, v.content = .key path own ∧ own.isNone = true

/-- The mapping of a property filter that compares with a key, as `Key.encode` makes it: a partition
comes with it where the effective namespace is not none. -/
def keyMapping (path effective : Value) : List (String × Value) :=
  [("keyValue", .ofTexts (("path", path) :: Key.encodePartition effective))]

/-- Mappings and pinned keys are encoded in the same way for all namespaces. -/
theorem Value.encode_of_pinned {v : Value} (h : v.IsOperand) (pinned : ¬ v.IsUnpinned)
    (n₁ n₂ : Value) : v.encode n₁ = v.encode n₂ := by
  rcases h with ⟨entries, seen⟩ | ⟨path, own, seen⟩
  · simp only [encode, seen]
  · have isPinned : own.isNone = false := by
      rw [← Bool.not_eq_true]
      exact fun none => pinned ⟨path, own, seen, none⟩
    simp only [encode, seen]
    exact Key.encode_of_pinned isPinned n₁ n₂

/-- Unpinned keys are encoded as `keyMapping`, with the same path, or the same failure, for every
namespace. -/
theorem Value.encode_of_unpinned {v : Value} (h : v.IsUnpinned) :
    ∃ path : Except Failure Value,
      ∀ n, v.encode n = (fun path => .ofTexts (keyMapping path n)) <$> path := by
  obtain ⟨path, own, seen, none⟩ := h
  refine ⟨do return .list (← Key.encodeElements (← path.items)), fun n => ?_⟩
  -- The path is encoded first, and without a look at the namespace.
  simp only [encode, seen, Key.encode, Key.effective, none, if_true]
  cases path.items with
  | error e => rfl
  | ok items =>
      cases h : Key.encodeElements items with
      | error e =>
          simp only [bind, Except.bind, h]
          rfl
      | ok elements =>
          simp only [bind, Except.bind, h]
          rfl

/-! ## Filters -/

mutual

/-- The two filters that a unit compiles to for two namespaces: equal leaves for pinned operands,
`keyMapping` of one path for unpinned keys, and the same operator over parallel parts. -/
inductive Filter.Parallel (n₁ n₂ : Value) : Value → Filter Value → Filter Value → Prop where
  /-- A comparison with anything but an unpinned key compiles to the same filter. -/
  | pinned {mark : Nat} {isAncestor : Bool} {property op operand : Value}
      (pinned : ¬ operand.IsUnpinned) (m : PropertyFilter Value) :
      Parallel n₁ n₂ (.comparison mark isAncestor property op operand) (.property m) (.property m)
  /-- A comparison with an unpinned key compiles to filters that have their namespaces in the
  partition of the key, and no partition where there is no namespace. -/
  | unpinned {mark : Nat} {isAncestor : Bool} {property op operand : Value}
      (unpinned : operand.IsUnpinned) (reference : PropertyReference)
      (operator : PropertyOperator) (path : Value) :
      Parallel n₁ n₂ (.comparison mark isAncestor property op operand)
        (.property ⟨reference, operator, keyMapping path n₁, none⟩)
        (.property ⟨reference, operator, keyMapping path n₂, none⟩)
  | combination {mark : Nat} {op : Value} {parts : List Value} {fs gs : List (Filter Value)}
      (operator : CompositeOperator) (filters : Filter.Parallels n₁ n₂ parts fs gs) :
      Parallel n₁ n₂ (.combination mark op parts) (.composite operator fs none)
        (.composite operator gs none)
  | object {number : Nat} {look : Unit → Value} {f g : Filter Value}
      (seen : Parallel n₁ n₂ (look ()) f g) : Parallel n₁ n₂ (.object number look) f g

/-- The filters that units compile to for two namespaces, unit by unit. -/
inductive Filter.Parallels (n₁ n₂ : Value) :
    List Value → List (Filter Value) → List (Filter Value) → Prop where
  | nil : Parallels n₁ n₂ [] [] []
  | cons {unit : Value} {rest : List Value} {f g : Filter Value} {fs gs : List (Filter Value)}
      (first : Filter.Parallel n₁ n₂ unit f g) (others : Parallels n₁ n₂ rest fs gs) :
      Parallels n₁ n₂ (unit :: rest) (f :: fs) (g :: gs)

end

/-- The two answers of a unit that compiles to filters. -/
def Filter.ParallelAnswers (n₁ n₂ unit answer₁ answer₂ : Value) : Prop :=
  ∃ f g, answer₁ = .message (.filter f) ∧ answer₂ = .message (.filter g) ∧
    Filter.Parallel n₁ n₂ unit f g

/-- `compileComparison` for two namespaces. Everything in it but `Value.encode` is literally the
same. -/
theorem compileComparison_parallel {operand : Value} (h : operand.IsOperand) (mark : Nat)
    (isAncestor : Bool) (property op n₁ n₂ : Value) :
    SameOutcome (Filter.Parallel n₁ n₂ (.comparison mark isAncestor property op operand))
      (compileComparison property op operand n₁) (compileComparison property op operand n₂) := by
  unfold compileComparison
  refine .bind_same (fun reference => ?_) _
  by_cases unpinned : operand.IsUnpinned
  · obtain ⟨path, encoded⟩ := Value.encode_of_unpinned unpinned
    have values : SameOutcome (fun v w => ∃ path, v = .ofTexts (keyMapping path n₁) ∧
        w = .ofTexts (keyMapping path n₂)) (operand.encode n₁) (operand.encode n₂) := by
      rw [encoded n₁, encoded n₂]
      exact .map_same (fun path => ⟨path, rfl, rfl⟩) _
    refine .bind values ?_
    rintro _ _ ⟨path, rfl, rfl⟩
    have read : ∀ n, checkMapping (.ofTexts (keyMapping path n)) = .ok (keyMapping path n) :=
      fun _ => rfl
    rw [PropertyFilter.make_eq, PropertyFilter.make_eq, read n₁, read n₂]
    rcases checkPropertyOperator op with (found | e) | operator
    · exact .error _
    · exact .error _
    · exact .ok (.unpinned unpinned reference operator path)
  · rw [Value.encode_of_pinned h unpinned n₁ n₂]
    exact .bind_same (fun value => .bind_same (fun m => .ok (.pinned unpinned m)) _) _

/-- The parts of a combination compile in parallel if each does. -/
theorem compileParts_parallel {n₁ n₂ : Value} {parts : List Value}
    (each : ∀ p ∈ parts, SameOutcome (Filter.ParallelAnswers n₁ n₂ p) (p.compile n₁).result
      (p.compile n₂).result) :
    SameOutcome (fun answers₁ answers₂ => ∃ fs gs, answers₁ = fs.map (Value.message ∘ .filter) ∧
        answers₂ = gs.map (Value.message ∘ .filter) ∧ Filter.Parallels n₁ n₂ parts fs gs)
      (compileParts parts n₁).result (compileParts parts n₂).result := by
  induction parts with
  | nil => exact .ok ⟨[], [], rfl, rfl, .nil⟩
  | cons p rest ih =>
      simp only [List.forall_mem_cons] at each
      rw [compileParts_cons_result, compileParts_cons_result]
      refine .bind each.1 ?_
      rintro _ _ ⟨f, g, rfl, rfl, first⟩
      refine .bind (ih each.2) ?_
      rintro _ _ ⟨fs, gs, rfl, rfl, others⟩
      exact .ok ⟨f :: fs, g :: gs, rfl, rfl, .cons first others⟩

/-- By induction on the tree, with `compileParts_parallel` for combinations. -/
theorem Value.compile_tree_parallel {unit : Value}
    (h : unit.IsTree (fun _ _ operand => operand.IsOperand) fun _ => True) (n₁ n₂ : Value) :
    SameOutcome (Filter.ParallelAnswers n₁ n₂ unit) (unit.compile n₁).result
      (unit.compile n₂).result := by
  induction h with
  | @comparison mark isAncestor property op operand fits =>
      rw [compile_comparison_result, compile_comparison_result]
      exact (compileComparison_parallel fits mark isAncestor property op n₁ n₂).map
        fun f g parallel => ⟨f, g, rfl, rfl, parallel⟩
  | @combination mark op parts _ _ ih =>
      rw [compile_combination_result, compile_combination_result]
      refine .bind (compileParts_parallel ih) ?_
      rintro _ _ ⟨fs, gs, rfl, rfl, parallels⟩
      rw [compileCombination_filters, compileCombination_filters, ← comp_map, ← comp_map]
      exact .map_same (fun operator => ⟨_, _, rfl, rfl, .combination operator parallels⟩) _
  | object _ ih =>
      rw [← id_map ((Value.object _ _).compile n₁).result,
        ← id_map ((Value.object _ _).compile n₂).result]
      refine ih.map ?_
      rintro _ _ ⟨f, g, rfl, rfl, parallel⟩
      exact ⟨f, g, rfl, rfl, .object parallel⟩

/-! ## Builders -/

/-- The units of a builder compile in parallel if each does and can be compiled at all. A failure
names the unit and its index, and both are the same in the two runs. -/
theorem compileUnits_parallel {n₁ n₂ : Value} {units : List Value}
    (compilable : ∀ u ∈ units, u.isCompilable = true)
    (each : ∀ u ∈ units, SameOutcome (Filter.ParallelAnswers n₁ n₂ u) (u.compile n₁).result
      (u.compile n₂).result) (index : Nat) :
    SameOutcome (Filter.Parallels n₁ n₂ units) (compileUnits units index n₁).result
      (compileUnits units index n₂).result := by
  induction units generalizing index with
  | nil => exact .ok .nil
  | cons u rest ih =>
      simp only [List.forall_mem_cons] at compilable each
      obtain ⟨first, others⟩ := each
      -- The two results are cases of one outcome, so they are told apart together.
      generalize answer₁ : (u.compile n₁).result = result₁ at first
      generalize answer₂ : (u.compile n₂).result = result₂ at first
      cases first with
      | error e =>
          rw [compileUnits, compileUnits, if_pos compilable.1, if_pos compilable.1,
            Traced.bind_result_of_error answer₁, Traced.bind_result_of_error answer₂]
          exact .error e
      | ok results =>
          obtain ⟨f, g, rfl, rfl, parallel⟩ := results
          rw [compileUnits_cons_result compilable.1 rest index answer₁ rfl,
            compileUnits_cons_result compilable.1 rest index answer₂ rfl]
          exact (ih compilable.2 others (index + 1)).map fun _ _ parallels =>
            .cons parallel parallels

/-- The two compiled queries of a builder with the given units: they agree in everything but
`filter`, and their filters are `Filter.compose` of parallel ones. -/
structure QueryMessage.Parallel (n₁ n₂ : Value) (units : List Value)
    (m₁ m₂ : QueryMessage Value) : Prop where
  kinds : m₁.kinds = m₂.kinds
  projections : m₁.projections = m₂.projections
  filter : ∃ fs gs, Filter.Parallels n₁ n₂ units fs gs ∧ m₁.filter = Filter.compose fs ∧
    m₂.filter = Filter.compose gs
  orders : m₁.orders = m₂.orders
  distinctOn : m₁.distinctOn = m₂.distinctOn
  startCursor : m₁.startCursor = m₂.startCursor
  limit : m₁.limit = m₂.limit
  offset : m₁.offset = m₂.offset

/-- Compiled queries with parallel filters are made, or refused, for the same reasons. -/
theorem QueryMessage.make_parallel {n₁ n₂ : Value} {units : List Value}
    {fs gs : List (Filter Value)} (parallels : Filter.Parallels n₁ n₂ units fs gs)
    (kinds : List KindExpression) (projections : List Projection)
    (orders groups : List (Message Value))
    (startCursor limit offset : Value) :
    SameOutcome (QueryMessage.Parallel n₁ n₂ units)
      (make kinds projections (Filter.compose fs) orders groups startCursor limit offset)
      (make kinds projections (Filter.compose gs) orders groups startCursor limit offset) := by
  rw [make_eq, make_eq]
  apply Checked.orInvalid_sameOutcome
  repeat apply Checked.and_sameOutcome
  exact .ok fun _ _ _ _ _ => ⟨rfl, rfl, ⟨fs, gs, parallels, rfl, rfl⟩, rfl, rfl, rfl, rfl, rfl⟩

/-- A builder of trees of conditions compiles for all namespaces or for none, and where it fails it
fails in the same way (`SameOutcome`). The messages that it compiles to for two namespaces are
`Parallel`: they differ in the partitions of unpinned keys only. -/
theorem Query.compile_parallel {q : Query} {scope₁ scope₂ n₁ n₂ : Value}
    (units : ∀ u ∈ q.filters, u.IsTree (fun _ _ operand => operand.IsOperand) fun _ => True)
    (effective₁ : effectiveScope q.config scope₁ = .ok n₁) (isNamespace₁ : n₁.IsNamespace)
    (effective₂ : effectiveScope q.config scope₂ = .ok n₂) (isNamespace₂ : n₂.IsNamespace) :
    SameOutcome (QueryMessage.Parallel n₁ n₂ q.filters) (q.compile scope₁).result
      (q.compile scope₂).result := by
  obtain ⟨shown₁, described₁⟩ := isNamespace₁.describe
  obtain ⟨shown₂, described₂⟩ := isNamespace₂.describe
  have filters := compileUnits_parallel (fun u hu => (units u hu).isCompilable)
    (fun u hu => Value.compile_tree_parallel (units u hu) n₁ n₂) 0
  rw [compile, compile, compileState_result, compileState_result, effective₁, effective₂]
  simp only [bind, Except.bind, described₁, described₂]
  -- The names do not depend on the namespace, and what follows only sees the filters.
  refine .bind_same (fun names => ?_) _
  refine filters.bind ?_
  intro fs gs parallels
  exact QueryMessage.make_parallel parallels _ _ _ _ _ _ _

/-- A builder with an unpinned key, a pinned one and a mapping in a combination compiles for the
empty namespace and for none, and only the first key tells. -/
theorem Query.compile_parallel_keys :
    let key (own : Value) : Value := .key (.tuple [.tuple [.text "Team", .text "spurs"]]) own
    let compare (mark : Nat) (operand : Value) : Value :=
      .comparison mark false (.text "team") (.member (.property .equal)) operand
    let q : Query := { Query.new .none with
      filters := [.combination 1 (.member (.composite .or)) [compare 2 (key .none),
        compare 3 (key (.text "a")), compare 4 (.mapping [(.text "keyValue", key .none)])]] }
    ((∀ u ∈ q.filters, u.IsTree (fun _ _ operand => operand.IsOperand) fun _ => True) ∧
      effectiveScope q.config (.text "") = .ok (.text "") ∧ (Value.text "").IsNamespace ∧
      effectiveScope q.config .none = .ok .none ∧ Value.none.IsNamespace) ∧
    ∃ m₁ m₂, (q.compile (.text "")).result = .ok m₁ ∧ (q.compile .none).result = .ok m₂ ∧
      QueryMessage.Parallel (.text "") .none q.filters m₁ m₂ := by
  intro key compare q
  have units : ∀ u ∈ q.filters, u.IsTree (fun _ _ operand => operand.IsOperand) fun _ => True := by
    intro u hu
    obtain rfl := List.mem_singleton.mp hu
    refine .combination trivial fun p hp => ?_
    simp only [List.mem_cons, List.not_mem_nil, or_false] at hp
    rcases hp with rfl | rfl | rfl
    · exact .comparison (.inr ⟨_, _, rfl⟩)
    · exact .comparison (.inr ⟨_, _, rfl⟩)
    · exact .comparison (.inl ⟨_, rfl⟩)
  have effective₁ : effectiveScope q.config (.text "") = .ok (.text "") := rfl
  have effective₂ : effectiveScope q.config .none = .ok .none := rfl
  have isNamespace₁ : (Value.text "").IsNamespace := .inr rfl
  have isNamespace₂ : Value.none.IsNamespace := .inl rfl
  refine ⟨⟨units, effective₁, isNamespace₁, effective₂, isNamespace₂⟩, ?_⟩
  have outcome := compile_parallel units effective₁ isNamespace₁ effective₂ isNamespace₂
  have succeeds : ∃ m, (q.compile .none).result = .ok m := ⟨_, rfl⟩
  obtain ⟨m₂, compiled⟩ := succeeds
  generalize compiled₁ : (q.compile (.text "")).result = result₁ at outcome
  rw [compiled] at outcome
  cases outcome with
  | ok parallel => exact ⟨_, m₂, rfl, compiled, parallel⟩

end EntityQuery
