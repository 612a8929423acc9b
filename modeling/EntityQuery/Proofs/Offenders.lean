import EntityQuery.Proofs.Blame

/-!
# Units that do not compile to filters

A unit offends if it cannot be compiled or answers something else than a filter. A builder says
which of its units is the first to blame, but only of offenders among its own units. Nothing looks
for those inside combinations; what is inside one fails for reasons of its own, or passes.

* `Offends` and `HasOffender` are about a unit itself and about everything in it.
* `Orderly` is a unit that would compile to a filter but for the offenders in it.
* `compileUnits_of_offends` and `compileUnits_blamesFrom` say what the units of a builder are
  blamed for, and `Query.compile_unitIndex_iff` when the first one with an offender is.
-/

namespace EntityQuery

/-! ## Offenders -/

/-- A unit that `compileUnits` blames: it has no compilation, or its answer is not a filter. -/
def Offends (scope unit : Value) : Prop :=
  unit.isCompilable = false ∨
    ∃ answer, (unit.compile scope).result = .ok answer ∧ ∀ f, answer.content ≠ .message (.filter f)

/-- A unit that offends or contains one that does. A combination compiles its parts without looking
at what they answer, and this is where the two notions part. -/
inductive HasOffender (scope : Value) : Value → Prop where
  | self {unit : Value} (offends : Offends scope unit) : HasOffender scope unit
  | part {mark : Nat} {op p : Value} {parts : List Value} (among : p ∈ parts)
      (inside : HasOffender scope p) : HasOffender scope (.combination mark op parts)
  | object {number : Nat} {look : Unit → Value} (seen : HasOffender scope (look ())) :
      HasOffender scope (.object number look)

/-- A unit that compiles to a filter. -/
def CompilesToFilter (scope unit : Value) : Prop :=
  unit.isCompilable = true ∧
    ∃ answer f, (unit.compile scope).result = .ok answer ∧ answer.content = .message (.filter f)

/-- A unit that compiles to a filter, offends, or is a combination of such units with an offender
somewhere in it. What it leaves out are units that fail in other ways, say on their operands, before
an offender is reached. -/
inductive Orderly (scope : Value) : Value → Prop where
  | compiles {unit : Value} (compiles : CompilesToFilter scope unit) : Orderly scope unit
  | offends {unit : Value} (offends : Offends scope unit) : Orderly scope unit
  | combination {mark : Nat} {op : Value} {parts : List Value}
      (inside : HasOffender scope (.combination mark op parts))
      (each : ∀ p ∈ parts, Orderly scope p) : Orderly scope (.combination mark op parts)
  | object {number : Nat} {look : Unit → Value} (seen : Orderly scope (look ())) :
      Orderly scope (.object number look)

theorem Value.compile_of_not_isCompilable {v : Value} (h : v.isCompilable = false)
    (scope : Value) : (v.compile scope).result = .error (.noAttribute v.typeName "compile") := by
  induction v using Value.content.induct with
  | case1 _ look ih => exact ih h
  | case2 v notObject =>
      cases v with
      | object _ look => exact absurd rfl (notObject _ look)
      | comparison | combination | order | group | query | recorder | answering | unseen =>
          cases h
      | _ => rfl

/-- Without an offender in it, an orderly unit compiles to a filter. By induction on `Orderly`, with
the parts of a combination collected by `compileCombination_filters`. -/
theorem Orderly.compilesToFilter {scope unit : Value} (h : Orderly scope unit)
    (without : ¬ HasOffender scope unit) : CompilesToFilter scope unit := by
  induction h with
  | compiles compiles => exact compiles
  | offends offends => exact absurd (.self offends) without
  | combination inside _ _ => exact absurd inside without
  | object _ ih => exact ih fun inside => without (.object inside)

/-- The parts of a combination fail without blame if each does. -/
theorem compileParts_blameless {scope : Value} {parts : List Value}
    (each : ∀ p ∈ parts, FailsOnly Failure.Blameless (p.compile scope).result) :
    FailsOnly Failure.Blameless (compileParts parts scope).result := by
  induction parts with
  | nil => trivial
  | cons p rest ih =>
      simp only [List.forall_mem_cons] at each
      rw [compileParts_cons_result]
      exact each.1.bind fun _ => (ih each.2).bind fun _ => trivial

/-- An orderly unit fails without blame: an index is only put into a failure by `compileUnits`, and
a builder that is used as a unit and answers at all does not fail. -/
theorem Orderly.compile_blameless {scope unit : Value} (h : Orderly scope unit) :
    FailsOnly Failure.Blameless (unit.compile scope).result := by
  induction h with
  | compiles compiles =>
      obtain ⟨_, answer, f, answers, _⟩ := compiles
      rw [answers]
      trivial
  | offends offends =>
      rcases offends with not | ⟨answer, answers, _⟩
      · rw [Value.compile_of_not_isCompilable not]
        rfl
      · rw [answers]
        trivial
  | @combination _ op parts _ _ ih =>
      rw [Value.compile_combination_result]
      refine (compileParts_blameless ih).bind fun answers => ?_
      have made := CompositeFilter.make_blameless op answers
      unfold compileCombination
      cases made' : CompositeFilter.make op answers with
      | ok m => trivial
      | error e => rw [made'] at made; exact made
  | object _ ih => exact ih

/-! ## The units of a builder -/

/-- A failure that blames no unit before some position. -/
def Failure.BlamesFrom (index : Nat) (e : Failure) : Prop := ∀ i, e.unitIndex? = some i → index ≤ i

theorem Failure.Blameless.blamesFrom {e : Failure} (h : e.Blameless) (index : Nat) :
    e.BlamesFrom index := by
  intro i blamed
  exact absurd blamed (h.not_blamed i)

/-- `compileUnits` blames a unit that offends at its own position. The failure quotes the unit, so
it has to have a description. -/
theorem compileUnits_of_offends {scope unit : Value} (offends : Offends scope unit)
    {shown : String} (described : unit.describe = .ok shown) (rest : List Value) (index : Nat) :
    ∃ e, (compileUnits (unit :: rest) index scope).result = .error e ∧
      e.unitIndex? = some index := by
  rw [compileUnits]
  by_cases compilable : unit.isCompilable = true
  · rcases offends with not | ⟨answer, answers, notFilter⟩
    · rw [compilable] at not
      cases not
    · rw [if_pos compilable, Traced.bind_result_of_ok answers, described]
      split
      · rename_i f isFilter
        exact absurd isFilter (notFilter f)
      · exact ⟨_, rfl, rfl⟩
  · rw [if_neg compilable, described]
    exact ⟨_, rfl, rfl⟩

/-- The index never points back: a failure of `compileUnits` from `index` on blames nothing before
`index`. -/
theorem compileUnits_blamesFrom {scope : Value} {units : List Value}
    (orderly : ∀ u ∈ units, Orderly scope u) (index : Nat) :
    FailsOnly (Failure.BlamesFrom index) (compileUnits units index scope).result := by
  induction units generalizing index with
  | nil => trivial
  | cons u rest ih =>
      simp only [List.forall_mem_cons] at orderly
      have described : FailsOnly (Failure.BlamesFrom index) u.describe :=
        u.describe_blameless.mono fun _ h => h.blamesFrom index
      -- The unit fails without blame, later ones are blamed for later positions, and what is
      -- left is the blame on the unit itself.
      rw [compileUnits]
      split
      · rw [Traced.bind_result]
        have unit := orderly.1.compile_blameless.mono fun _ h => h.blamesFrom index
        refine unit.bind fun answer => ?_
        split
        · rw [Traced.bind_result]
          have later := (ih orderly.2 (index + 1)).mono fun e blames i blamed =>
            Nat.le_of_succ_le (blames i blamed)
          exact later.bind fun _ => trivial
        · rw [Traced.bind_result]
          refine described.bind fun shown i blamed => ?_
          cases blamed
          exact Nat.le_refl _
      · rw [Traced.bind_result]
        refine described.bind fun shown i blamed => ?_
        cases blamed
        exact Nat.le_refl _

/-- Units that compile to filters are passed, and the position counts on. -/
theorem compileUnits_append {scope : Value} {before : List Value}
    (compile : ∀ u ∈ before, CompilesToFilter scope u) (rest : List Value) (index : Nat) :
    ∃ fs, (compileUnits (before ++ rest) index scope).result =
      (fs ++ ·) <$> (compileUnits rest (index + before.length) scope).result := by
  induction before generalizing index with
  | nil => exact ⟨[], by simp⟩
  | cons u before ih =>
      simp only [List.forall_mem_cons] at compile
      obtain ⟨compilable, answer, f, answers, isFilter⟩ := compile.1
      obtain ⟨fs, later⟩ := ih compile.2 (index + 1)
      refine ⟨f :: fs, ?_⟩
      rw [List.cons_append, compileUnits_cons_result compilable _ index answers isFilter, later,
        List.length_cons, Nat.add_assoc, Nat.add_comm 1, ← comp_map]
      rfl

/-- A unit that does not offend itself is not blamed for what is inside it. What fails is the unit,
and `Orderly.compile_blameless` says that this carries no index. -/
theorem compileUnits_not_blamed {scope unit : Value} {rest : List Value}
    (fair : ¬ Offends scope unit) (orderly : ∀ u ∈ unit :: rest, Orderly scope u) (index : Nat) :
    FailsOnly (fun e => e.unitIndex? ≠ some index)
      (compileUnits (unit :: rest) index scope).result := by
  simp only [List.forall_mem_cons] at orderly
  have compilable : unit.isCompilable = true := by
    rw [← Bool.not_eq_false]
    exact fun not => fair (.inl not)
  rw [compileUnits, if_pos compilable, Traced.bind_result]
  cases answers : (unit.compile scope).result with
  | error e =>
      have blameless : FailsOnly Failure.Blameless (.error e : Except Failure Value) :=
        answers ▸ orderly.1.compile_blameless
      exact Failure.Blameless.not_blamed blameless index
  | ok answer =>
      show FailsOnly _ (Traced.result _)
      split
      · rw [Traced.bind_result]
        have later : FailsOnly (fun e => e.unitIndex? ≠ some index)
            (compileUnits rest (index + 1) scope).result :=
          (compileUnits_blamesFrom orderly.2 (index + 1)).mono fun e blames =>
            fun blamed => Nat.not_succ_le_self index (blames index blamed)
        exact later.bind fun _ => trivial
      · rename_i notFilter
        exact absurd (.inr ⟨answer, answers, notFilter⟩) fair

/-! ## Builders -/

/-- Among units that are `Orderly` and have descriptions, the first one that `HasOffender` is blamed
with its position just if it `Offends` itself. An offender inside of a combination fails as what it
is. -/
theorem Query.compile_unitIndex_iff {q : Query} {scope n unit : Value}
    {before after : List Value} (effective : effectiveScope q.config scope = .ok n)
    (scopeDescribed : ∃ s, n.describe = .ok s)
    (kinds : ∀ v ∈ q.kinds, v.asText?.isSome = true)
    (projections : ∀ v ∈ q.projections, v.asText?.isSome = true)
    (units : q.filters = before ++ unit :: after) (orderly : ∀ u ∈ q.filters, Orderly n u)
    (described : ∀ u ∈ q.filters, ∃ s, u.describe = .ok s)
    (first : ∀ u ∈ before, ¬ HasOffender n u) :
    (∃ e, (q.compile scope).result = .error e ∧ e.unitIndex? = some before.length) ↔
      Offends n unit := by
  obtain ⟨shown, scopeDescribed⟩ := scopeDescribed
  rw [units] at orderly described
  simp only [List.forall_mem_append, List.forall_mem_cons] at orderly described
  obtain ⟨shownUnit, unitDescribed⟩ := described.2.1
  obtain ⟨fs, passed⟩ := compileUnits_append
    (fun u hu => (orderly.1 u hu).compilesToFilter (first u hu)) (unit :: after) 0
  rw [Nat.zero_add] at passed
  -- The names and the units before this one are past, so what is left starts with this unit.
  have result : (q.compile scope).result =
      ((fs ++ ·) <$> (compileUnits (unit :: after) before.length n).result >>= fun filters =>
        QueryMessage.make (q.kinds.map fun v => ⟨v.textOf⟩)
          (q.projections.map fun v => ⟨⟨v.textOf⟩⟩) (Filter.compose filters) q.orders q.groups
          q.startCursor q.limit q.offset) := by
    rw [compile, compileState_result, effective, compileNames_of_texts kinds projections, units]
    simp only [bind, Except.bind, scopeDescribed, passed]
  rw [result]
  constructor
  · rintro ⟨e, failed, blamed⟩
    by_cases offends : Offends n unit
    · exact offends
    · -- Neither the units from this one on nor the message blame it, so nothing does.
      have orderlyRest : ∀ u ∈ unit :: after, Orderly n u :=
        List.forall_mem_cons.mpr ⟨orderly.2.1, orderly.2.2⟩
      have filters := (compileUnits_not_blamed offends orderlyRest before.length).map (fs ++ ·)
      have whole : FailsOnly (fun e => e.unitIndex? ≠ some before.length)
          (.error e : Except Failure (QueryMessage Value)) := by
        rw [← failed]
        exact filters.bind fun filters =>
          (QueryMessage.make_blameless _ _ _ _ _ _ _ _).mono fun _ h => h.not_blamed _
      exact absurd blamed whole
  · intro offends
    obtain ⟨e, failed, blamed⟩ := compileUnits_of_offends offends unitDescribed after before.length
    refine ⟨e, ?_, blamed⟩
    rw [failed]
    rfl

/-- The second of three units answers a number and is blamed; the number inside the third one is
not looked at any more. -/
theorem Query.compile_unitIndex_iff_second :
    let compare : Value := .comparison 1 false (.text "a") (.member (.property .equal))
      (.mapping [(.text "integerValue", .text "1")])
    let both : Value := .combination 2 (.member (.composite .and)) [compare, .int 5]
    let q : Query := { Query.new .none with
      kinds := [.text "Player"], filters := [compare, .answering 3 (.int 7), both] }
    (effectiveScope q.config (.text "n") = .ok (.text "n") ∧
      (∃ s, (Value.text "n").describe = .ok s) ∧ (∀ v ∈ q.kinds, v.asText?.isSome = true) ∧
      (∀ v ∈ q.projections, v.asText?.isSome = true) ∧
      q.filters = [compare] ++ .answering 3 (.int 7) :: [both] ∧
      (∀ u ∈ q.filters, Orderly (.text "n") u) ∧
      (∀ u ∈ q.filters, ∃ s, u.describe = .ok s) ∧
      (∀ u ∈ [compare], ¬ HasOffender (.text "n") u)) ∧
    ∃ e, (q.compile (.text "n")).result = .error e ∧ e.unitIndex? = some 1 := by
  intro compare both q
  have effective : effectiveScope q.config (.text "n") = .ok (.text "n") := rfl
  have scopeDescribed : ∃ s, (Value.text "n").describe = .ok s := ⟨_, rfl⟩
  have kinds : ∀ v ∈ q.kinds, v.asText?.isSome = true := by simp [q, Value.asText?]
  have projections : ∀ v ∈ q.projections, v.asText?.isSome = true := by simp [q, Query.new]
  have compiles : CompilesToFilter (.text "n") compare := ⟨rfl, _, _, rfl, rfl⟩
  have offends : Offends (.text "n") (.answering 3 (.int 7)) := by
    refine .inr ⟨.int 7, rfl, ?_⟩
    intro f isFilter
    cases isFilter
  have fair : ¬ HasOffender (.text "n") compare := by
    change ¬ HasOffender (.text "n") (.comparison 1 false _ _ _)
    intro inside
    cases inside with
    | self offends =>
        rcases offends with not | ⟨answer, answers, notFilter⟩
        · cases not
        · cases answers
          exact notFilter _ rfl
  have inside : HasOffender (.text "n") both :=
    .part (List.mem_cons_of_mem _ List.mem_cons_self) (.self (.inl rfl))
  have orderly : ∀ u ∈ q.filters, Orderly (.text "n") u := by
    simp only [q, List.forall_mem_cons, List.not_mem_nil, false_implies, implies_true, and_true]
    refine ⟨.compiles compiles, .offends offends, .combination inside ?_⟩
    simp only [List.forall_mem_cons, List.not_mem_nil, false_implies, implies_true, and_true]
    exact ⟨.compiles compiles, .offends (.inl rfl)⟩
  have described : ∀ u ∈ q.filters, ∃ s, u.describe = .ok s := by
    simp only [q, List.forall_mem_cons, List.not_mem_nil, false_implies, implies_true, and_true]
    exact ⟨⟨_, rfl⟩, ⟨_, rfl⟩, ⟨_, rfl⟩⟩
  have first : ∀ u ∈ [compare], ¬ HasOffender (.text "n") u := by
    simpa using fair
  refine ⟨⟨effective, scopeDescribed, kinds, projections, rfl, orderly, described, first⟩, ?_⟩
  exact (Query.compile_unitIndex_iff effective scopeDescribed kinds projections rfl orderly
    described first).mpr offends

/-- A number inside a combination is not blamed: it fails as what it is. -/
theorem Query.compile_number_inside_eq_noAttribute :
    let compare : Value := .comparison 1 false (.text "a") (.member (.property .equal))
      (.mapping [(.text "integerValue", .text "1")])
    let both : Value := .combination 2 (.member (.composite .and)) [compare, .int 5]
    let q : Query := { Query.new .none with kinds := [.text "Player"], filters := [both] }
    HasOffender .none both ∧ (∃ s, both.describe = .ok s) ∧
      CompilesToFilter .none compare ∧ Offends .none (.int 5) ∧
      (q.compile .none).result = .error (.noAttribute "int" "compile") ∧
      ¬ ∃ e, (q.compile .none).result = .error e ∧ e.unitIndex? = some 0 := by
  intro compare both q
  have result : (q.compile .none).result = .error (.noAttribute "int" "compile") := rfl
  refine ⟨.part (List.mem_cons_of_mem _ List.mem_cons_self) (.self (.inl rfl)), ⟨_, rfl⟩,
    ⟨rfl, _, _, rfl, rfl⟩, .inl rfl, result, ?_⟩
  rintro ⟨e, failed, blamed⟩
  rw [result] at failed
  cases failed
  cases blamed

end EntityQuery
