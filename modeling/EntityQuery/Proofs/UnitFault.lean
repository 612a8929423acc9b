import EntityQuery.Proofs.Conjunction

/-!
# The first unit that fails

The units of a builder are compiled one after another. The first one that does not compile to a
filter ends the compilation: the units before it have been compiled, it has been compiled itself if
that is possible, and no unit after it is touched. What went wrong is what is wrong with that unit.

* `UnitFault` is what may be wrong with a unit at a position.
* `compileUnits_append_of_compilesTo` goes past units that compile to filters, and
  `compileUnits_cons_of_not_compilesToFilter` stops at one that does not.
* `compileFilters_first_failure` puts the two together.
-/

namespace EntityQuery

variable {n : Value}

/-! ## What is wrong with a unit -/

/-- The failure for a unit at a position that does not compile to a filter: its own, if it raises
one. Otherwise it is blamed by a description of it (`notCompilable`, `notFilter`), and if it has
none, that is the failure. -/
inductive UnitFault (n : Value) (index : Nat) (u : Value) : Failure → Prop where
  | raises {e : Failure} (compilable : u.isCompilable = true)
      (raised : (u.compile n).result = .error e) : UnitFault n index u e
  | notCompilable {shown : String} (notCompilable : u.isCompilable = false)
      (described : u.describe = .ok shown) : UnitFault n index u (.notCompilable shown index)
  | notFilter {answer : Value} {shown : String} (compilable : u.isCompilable = true)
      (answers : (u.compile n).result = .ok answer)
      (other : ∀ f, answer.content ≠ .message (.filter f)) (described : u.describe = .ok shown) :
      UnitFault n index u (.notFilter shown index answer.typeName)
  | undescribed {e : Failure} (offends : Offends n u) (failed : u.describe = .error e) :
      UnitFault n index u e

/-- A unit that offends is blamed by its position, if it has a description. -/
theorem UnitFault.unitIndex_of_offends {index : Nat} {u : Value} {e : Failure} {shown : String}
    (fault : UnitFault n index u e) (offends : Offends n u) (described : u.describe = .ok shown) :
    e.unitIndex? = some index := by
  cases fault with
  | raises compilable raised =>
      obtain not | ⟨answer, answers, -⟩ := offends
      · rw [compilable] at not
        cases not
      · rw [raised] at answers
        cases answers
  | notCompilable _ _ => rfl
  | notFilter _ _ _ _ => rfl
  | undescribed _ failed =>
      rw [described] at failed
      cases failed

theorem UnitFault.eq_of_raised {index : Nat} {u : Value} {e e' : Failure}
    (fault : UnitFault n index u e) (compilable : u.isCompilable = true)
    (raised : (u.compile n).result = .error e') : e = e' := by
  have fair : ¬ Offends n u :=
    not_offends_iff.mpr ⟨compilable, fun _ answers => by rw [raised] at answers; cases answers⟩
  cases fault with
  | raises _ own =>
      rw [raised] at own
      cases own
      rfl
  | notCompilable not _ => exact absurd (.inl not) fair
  | notFilter _ answers other _ => exact absurd (.inr ⟨_, answers, other⟩) fair
  | undescribed offends _ => exact absurd offends fair

/-! ## The loop over the units -/

/-- `compileUnits` past a unit that compiles to a filter: its events come first, and the others go
on at the next position. -/
theorem compileUnits_cons_of_compilesTo {u : Value} {f : Filter Value} (compiles : CompilesTo n u f)
    (rest : List Value) (index : Nat) :
    compileUnits (u :: rest) index n =
      ⟨(u.compile n).events ++ (compileUnits rest (index + 1) n).events,
        (f :: ·) <$> (compileUnits rest (index + 1) n).result⟩ := by
  obtain ⟨compilable, answer, answers, isFilter⟩ := compiles
  rw [compileUnits, if_pos compilable, Traced.bind_of_ok answers, isFilter]
  simp only [bind_pure_comp, Traced.map_events, Traced.map_result]

/-- Past any number of them, by induction on the units before. -/
theorem compileUnits_append_of_compilesTo {before : List Value} {fs : List (Filter Value)}
    (each : List.Forall₂ (CompilesTo n) before fs) (rest : List Value) (index : Nat) :
    compileUnits (before ++ rest) index n =
      ⟨before.flatMap (fun u => (u.compile n).events) ++
          (compileUnits rest (index + before.length) n).events,
        (fs ++ ·) <$> (compileUnits rest (index + before.length) n).result⟩ := by
  induction each generalizing index with
  | nil => exact Traced.ext rfl (id_map _).symm
  | @cons u f before fs first _ ih =>
      rw [List.cons_append, compileUnits_cons_of_compilesTo first, ih (index + 1),
        List.length_cons, Nat.add_assoc, Nat.add_comm 1, List.flatMap_cons, List.append_assoc,
        ← comp_map]
      rfl

/-- At a unit that does not compile to a filter `compileUnits` ends. The unit has been compiled if
it can be, and its events are kept. -/
theorem compileUnits_cons_of_not_compilesToFilter {u : Value} (not : ¬ CompilesToFilter n u)
    (rest : List Value) (index : Nat) :
    ∃ e, compileUnits (u :: rest) index n =
        ⟨if u.isCompilable then (u.compile n).events else [], .error e⟩ ∧
      UnitFault n index u e := by
  rw [compileUnits]
  by_cases compilable : u.isCompilable = true
  · rw [if_pos compilable, if_pos compilable]
    cases compiled : (u.compile n).result with
    | error e => exact ⟨e, Traced.bind_of_error compiled _, .raises compilable compiled⟩
    | ok answer =>
        have other : ∀ f, answer.content ≠ .message (.filter f) := fun f isFilter =>
          not ⟨compilable, answer, f, compiled, isFilter⟩
        rw [Traced.bind_of_ok compiled]
        split
        · next f isFilter => exact absurd isFilter (other f)
        · -- The blame takes a description of the unit, which leaves no events.
          cases described : u.describe with
          | ok shown =>
              exact ⟨_, Traced.ext (List.append_nil _) rfl,
                .notFilter compilable compiled other described⟩
          | error e =>
              exact ⟨e, Traced.ext (List.append_nil _) rfl,
                .undescribed (.inr ⟨answer, compiled, other⟩) described⟩
  · rw [if_neg compilable, if_neg compilable]
    rw [Bool.not_eq_true] at compilable
    cases described : u.describe with
    | ok shown => exact ⟨_, rfl, .notCompilable compilable described⟩
    | error e => exact ⟨e, rfl, .undescribed (.inl compilable) described⟩

/-! ## The composition -/

/-- Units that all compile to filters are compiled once each, in order, and the result has all of
their filters: nothing for no units, the very filter of a single one, and else a conjunction.
Otherwise the first unit that does not compile to a filter decides: the units before it have been
compiled once each, in order, and so has it if it `isCompilable`. No unit after it is compiled, and
the failure is its `UnitFault`. -/
theorem compileFilters_first_failure (units : List Value) (n : Value) :
    ((∀ u ∈ units, CompilesToFilter n u) →
      ∃ fs result, List.Forall₂ (CompilesTo n) units fs ∧
        compileFilters units n = ⟨units.flatMap fun u => (u.compile n).events, .ok result⟩ ∧
        (fs = [] → result = none) ∧ (∀ f, fs = [f] → result = some f) ∧
        (2 ≤ fs.length → result = some (.composite .and fs none))) ∧
    ∀ before u after, units = before ++ u :: after → (∀ v ∈ before, CompilesToFilter n v) →
      ¬ CompilesToFilter n u →
      ∃ e, compileFilters units n =
          ⟨(before ++ if u.isCompilable then [u] else []).flatMap fun v => (v.compile n).events,
            .error e⟩ ∧
        UnitFault n before.length u e ∧
        (Offends n u → (∃ shown, u.describe = .ok shown) → e.unitIndex? = some before.length) := by
  constructor
  · intro all
    obtain ⟨fs, each⟩ := compilesToFilter_iff.mp all
    refine ⟨fs, Filter.compose fs, each, ?_, ?_, ?_, Filter.compose_of_two_le⟩
    · have compiled := compileUnits_append_of_compilesTo each [] 0
      rw [List.append_nil] at compiled
      rw [compileFilters, compiled]
      refine Traced.ext ?_ ?_
      · rw [Traced.map_events]
        exact List.append_nil _
      · rw [Traced.map_result]
        show Except.ok (Filter.compose (fs ++ [])) = _
        rw [List.append_nil]
    · intro none
      rw [none]
      rfl
    · intro f one
      rw [one]
      rfl
  · intro before u after parts passed not
    obtain ⟨fs, each⟩ := compilesToFilter_iff.mp passed
    obtain ⟨e, stopped, fault⟩ :=
      compileUnits_cons_of_not_compilesToFilter not after before.length
    have compiled := compileUnits_append_of_compilesTo each (u :: after) 0
    rw [Nat.zero_add, stopped] at compiled
    refine ⟨e, ?_, fault, ?_⟩
    · rw [parts, compileFilters, compiled]
      refine Traced.ext ?_ ?_
      · rw [Traced.map_events, List.flatMap_append]
        show _ ++ _ = _ ++ _
        by_cases compilable : u.isCompilable = true <;> simp [compilable]
      · rw [Traced.map_result]
        rfl
    · intro offends described
      obtain ⟨shown, described⟩ := described
      exact fault.unitIndex_of_offends offends described

/-- A unit that is given twice is compiled twice. Behind a unit that compiles to a filter, a number
is blamed and nothing more is compiled, while a unit without a name has been compiled and fails as
it does. -/
theorem compileFilters_first_failure_second :
    let n : Value := .text "n"
    let r₇ : Value := .recorder 7 (.text "a")
    let r₈ : Value := .recorder 8 (.text "b")
    let nameless : Value := .recorder 9 (.int 5)
    ((∀ u ∈ [r₇, r₈, r₇], CompilesToFilter n u) ∧ ¬ CompilesToFilter n (.int 5) ∧
      ¬ CompilesToFilter n nameless) ∧
    (∃ fs, List.Forall₂ (CompilesTo n) [r₇, r₈, r₇] fs ∧ compileFilters [r₇, r₈, r₇] n =
      ⟨[.visited 7 n, .visited 8 n, .visited 7 n], .ok (some (.composite .and fs none))⟩) ∧
    (∃ e, compileFilters [r₇, .int 5, r₈] n = ⟨[.visited 7 n], .error e⟩ ∧
      e.unitIndex? = some 1) ∧
    compileFilters [r₇, nameless, r₈] n =
      ⟨[.visited 7 n, .visited 9 n], .error (nameFault .propertyReference (.int 5))⟩ := by
  intro n r₇ r₈ nameless
  have compiles : ∀ mark name, CompilesToFilter n (.recorder mark (.text name)) :=
    fun _ _ => ⟨rfl, _, _, rfl, rfl⟩
  have all : ∀ u ∈ [r₇, r₈, r₇], CompilesToFilter n u := by
    simp only [List.forall_mem_cons, List.not_mem_nil, false_implies, implies_true, and_true]
    exact ⟨compiles 7 "a", compiles 8 "b", compiles 7 "a"⟩
  have number : ¬ CompilesToFilter n (.int 5) := fun ⟨compilable, _⟩ => by cases compilable
  have raises : (nameless.compile n).result = .error (nameFault .propertyReference (.int 5)) := rfl
  have unnamed : ¬ CompilesToFilter n nameless := by
    intro ⟨_, answer, _, answers, _⟩
    rw [raises] at answers
    cases answers
  have before : ∀ v ∈ [r₇], CompilesToFilter n v := List.forall_mem_singleton.mpr (compiles 7 "a")
  refine ⟨⟨all, number, unnamed⟩, ?_, ?_, ?_⟩
  · obtain ⟨fs, result, each, compiled, -, -, several⟩ :=
      (compileFilters_first_failure [r₇, r₈, r₇] n).1 all
    refine ⟨fs, each, ?_⟩
    rw [compiled, several (each.length_eq ▸ by decide)]
    rfl
  · obtain ⟨e, stopped, -, blamed⟩ :=
      (compileFilters_first_failure [r₇, .int 5, r₈] n).2 [r₇] _ [r₈] rfl before number
    exact ⟨e, stopped, blamed (.inl rfl) ⟨_, rfl⟩⟩
  · obtain ⟨e, stopped, fault, -⟩ :=
      (compileFilters_first_failure [r₇, nameless, r₈] n).2 [r₇] _ [r₈] rfl before unnamed
    rw [stopped, fault.eq_of_raised rfl raises]
    rfl

end EntityQuery
