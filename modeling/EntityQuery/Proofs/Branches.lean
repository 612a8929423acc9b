import Mathlib.Data.List.Forall2
import EntityQuery.Proofs.Records

/-!
# Copies are independent

A copy is made of references to what the original refers to, in lists of its own. So the two have
the same record at first, and none of the calls on either of them shows in the other. The same goes
for copies of copies: a builder has recorded what the calls on its way from an original would have
recorded, had they been the only ones.

* `Workspace.SameRecord` compares a builder in a workspace with one that stands for itself.
  `Workspace.SameRecord.apply` is its step.
* `Workspace.branches` tells for each builder where it comes from and which calls were made on the
  way. `Workspace.AllAlone.step` and `Workspace.AllAlone.run` are a step and a run of all of them.
* `Workspace.copies_independent` is about a builder, its copy, and the tree of all further copies.
-/

namespace EntityQuery

namespace Workspace

/-- A builder has recorded the same as it would have alone: the same references, and the same
strictness, which `checkPage` reads. What is at the places may be looked at at another time. -/
structure SameRecord (ws : Workspace) (recorded alone : Query) : Prop where
  references : recorded.references = alone.references
  strict : ws.strict? recorded.config = alone.config.strict?

/-- Looking at a builder does not change what it refers to. -/
theorem references_lookUp (ws : Workspace) (way : QueryPart → List (Nat × QueryPart)) (q : Query) :
    (q.lookUp fun part => ws.sight ws.depth (way part)).references = q.references := by
  obtain ⟨steps, depth⟩ := ws.exists_depth_eq
  have items : ∀ (part : QueryPart) (vs : List Value),
      lookUpItems .references (lookUpItems (ws.sight (steps + 2) (way part)) vs) =
        lookUpItems .references vs := by
    intro part vs
    rw [lookUpItems_eq_map, lookUpItems_eq_map, lookUpItems_eq_map, List.map_map]
    exact List.map_congr_left fun v _ => v.references_lookUp ws (steps + 1) (way part)
  rw [depth]
  simp only [QueryState.references, QueryState.lookUp, items, Value.references_lookUp]

theorem exists_builder? {ws : Workspace} {id : Nat} {recorded : Query}
    (found : ws.builders[id]? = some recorded) : ∃ q, ws.builder? id = some q := by
  rw [builder?, found]
  exact ⟨_, rfl⟩

/-- What `builder?` shows of a builder is what it has recorded. So the invariant may be stated of
either. -/
theorem sameRecord_of_builder? {ws : Workspace} (direct : ws.Direct) {id : Nat} {recorded q : Query}
    (found : ws.builders[id]? = some recorded) (seen : ws.builder? id = some q) :
    ws.SameRecord recorded q := by
  rw [builder?, found] at seen
  cases seen
  refine ⟨(references_lookUp ws _ recorded).symm, ?_⟩
  obtain ⟨steps, depth⟩ := ws.exists_depth_eq
  dsimp only [QueryState.lookUp]
  rw [depth, strict?_lookUp_eq direct rfl]

/-- A call on a builder in a workspace does what it would have done to the builder alone. This is
where `recordAlike_refresh` comes in. -/
theorem SameRecord.apply {ws ws' : Workspace} (direct : ws.Direct) (places : ws'.places = ws.places)
    {id : Nat} {recorded seen alone : Query} (found : ws'.builders[id]? = some recorded)
    (seenAs : ws'.builder? id = some seen) (same : ws.SameRecord recorded alone) {c : Query.Call}
    (noBuilder : ∀ v ∈ c.arguments, (ws.refresh v).isBuilder = false) :
    ws.SameRecord (seen.apply (c.map ws'.refresh)).state
      (alone.apply (c.map ws.refresh)).state := by
  have direct' : ws'.Direct := by rwa [Direct, places]
  -- What is seen of the builder stands between what it has recorded and what it would have alone.
  have sameSeen := sameRecord_of_builder? direct' found seenAs
  have strict : seen.config.strict? = alone.config.strict? := by
    rw [← sameSeen.strict, strict?_congr places, same.strict]
  have references : seen.references = alone.references :=
    sameSeen.references.symm.trans same.references
  constructor
  · exact Query.references_apply references strict (recordAlike_refresh direct places noBuilder)
  · rw [Query.apply_state, Query.apply_state]
    rw [builder?, found] at seenAs
    cases seenAs
    obtain ⟨steps, depth⟩ := ws'.exists_depth_eq
    dsimp only [QueryState.lookUp]
    rw [depth, ← strict?_congr places, strict?_shown_lookUp direct', strict?_congr places,
      same.strict]

/-! ## Branches -/

/-- Where a builder comes from: the builder that it is a copy of, at first or second hand, and the
calls on the way. -/
structure Branch where
  root : Nat
  calls : List Query.Call

/-- The branches after a step: a call lengthens the one that it is on, and a copy adds one with the
calls of its original. -/
def Step.branch (branches : List Branch) : Step → List Branch
  | .call id c => branches.modify id fun b => { b with calls := b.calls ++ [c] }
  | .copy id => branches ++ (branches[id]?).toList
  | _ => branches

/-- The branches after some steps, each a builder of its own at first. -/
def branches (builders : Nat) (steps : List Step) : List Branch :=
  steps.foldl Step.branch ((List.range builders).map fun root => ⟨root, []⟩)

/-- A step that makes a copy, compiles, or makes a call without builders among its arguments. A
builder that is recorded as a unit may change later, and then what the recording builder refers to
is not settled by its own calls. Steps that write to places are left out too, since what they write
to may be shared on purpose. -/
def Branching (ws : Workspace) : Step → Prop
  | .call _ c => ∀ v ∈ c.arguments, (ws.refresh v).isBuilder = false
  | .copy _ | .compile .. | .request .. => True
  | _ => False

/-- The state of a branch if nothing else had happened: the root as `builder?` shows it, and the
calls of the branch by `Query.run`. -/
def alone? (ws : Workspace) (b : Branch) : Option Query :=
  (ws.builder? b.root).map fun q => q.run (b.calls.map (·.map ws.refresh))

/-- Every builder is at the end of its `Branch`, and has recorded what it would have alone. It is
kept by `Branching` steps. -/
structure AllAlone (ws ws' : Workspace) (bs : List Branch) : Prop where
  places : ws'.places = ws.places
  each : List.Forall₂ (fun b recorded => ∃ q, ws.alone? b = some q ∧ ws.SameRecord recorded q) bs
    ws'.builders

/-- Parallel lists are parallel where something else is put into both. `AllAlone` has builders
beside branches, and a call changes both at one position. -/
theorem forall₂_modify_set {α β : Type} {R : α → β → Prop} {l : List α} {l' : List β}
    (each : List.Forall₂ R l l') {i : Nat} {f : α → α} {b : β}
    (changed : ∀ a, l[i]? = some a → R (f a) b) : List.Forall₂ R (l.modify i f) (l'.set i b) := by
  induction each generalizing i with
  | nil => simp
  | cons first others ih =>
      cases i with
      | zero => exact .cons (changed _ rfl) others
      | succ i => exact .cons first (ih fun a ha => changed a ha)

/-- What is at a position of one of two parallel lists is parallel to what is there in the other. -/
theorem forall₂_getElem? {α β : Type} {R : α → β → Prop} {l : List α} {l' : List β}
    (each : List.Forall₂ R l l') (i : Nat) : Option.Rel R l[i]? l'[i]? := by
  induction each generalizing i with
  | nil => exact .none
  | cons first _ ih =>
      cases i with
      | zero => exact .some first
      | succ i => exact ih i

/-- A step leaves every builder as it would have been alone. For the builder that a call is on this
is `SameRecord.apply`; the others are not touched. -/
theorem AllAlone.step {ws ws' : Workspace} (direct : ws.Direct) {bs : List Branch}
    (alone : ws.AllAlone ws' bs) {s : Step} (branching : ws.Branching s) :
    ws.AllAlone (ws'.step s) (s.branch bs) := by
  obtain ⟨places, each⟩ := alone
  cases s with
  | place | put | append | newBuilder => exact branching.elim
  | copy id =>
      -- The copy comes last in both lists, and takes over the branch of the original.
      refine ⟨places, List.rel_append each ?_⟩
      have parallel := forall₂_getElem? each id
      generalize bs[id]? = b at parallel ⊢
      generalize ws'.builders[id]? = recorded at parallel ⊢
      cases parallel with
      | none => exact .nil
      | some same => exact .cons same .nil
  | call id c =>
      have parallel := forall₂_getElem? each id
      refine ⟨(ws'.call_places id _).trans places, ?_⟩
      -- Only the branch that is called changes, and a call on no builder changes none.
      rw [Step.branch, Workspace.step, call]
      cases found : ws'.builders[id]? with
      | none =>
          have seen : ws'.builder? id = none := by rw [builder?, found, Option.map_none]
          rw [found] at parallel
          cases missing : bs[id]? with
          | some b =>
              rw [missing] at parallel
              cases parallel
          | none =>
              rw [seen, List.modify_eq_self (List.getElem?_eq_none_iff.mp missing)]
              exact each
      | some recorded =>
          obtain ⟨seen, seenAs⟩ := exists_builder? found
          rw [seenAs]
          refine forall₂_modify_set each fun b hb => ?_
          rw [hb, found] at parallel
          cases parallel with
          | some same =>
              obtain ⟨q, isAlone, same⟩ := same
              -- The end of the branch alone is one call further.
              refine ⟨(q.apply (c.map ws.refresh)).state, ?_,
                same.apply direct places found seenAs branching⟩
              rw [alone?, Option.map_eq_some_iff] at isAlone ⊢
              obtain ⟨root, isRoot, ran⟩ := isAlone
              refine ⟨root, isRoot, ?_⟩
              rw [List.map_append, Query.run_append, ran]
              rfl
  | compile id scope =>
      obtain ⟨builders, same⟩ := ws'.compile_builders id (ws'.refresh scope)
      exact ⟨same.trans places, builders.symm ▸ each⟩
  | request id scope projectId =>
      obtain ⟨builders, same⟩ :=
        ws'.request_builders id (ws'.refresh scope) (ws'.refresh projectId)
      exact ⟨same.trans places, builders.symm ▸ each⟩

theorem AllAlone.run {ws ws' : Workspace} (direct : ws.Direct) {bs : List Branch}
    (alone : ws.AllAlone ws' bs) {steps : List Step} (branching : ∀ s ∈ steps, ws.Branching s) :
    ws.AllAlone (ws'.run steps) (steps.foldl Step.branch bs) := by
  induction steps generalizing ws' bs with
  | nil => exact alone
  | cons s rest ih =>
      obtain ⟨first, others⟩ := List.forall_mem_cons.mp branching
      exact ih (alone.step direct first) others

theorem allAlone_self {ws : Workspace} (direct : ws.Direct) :
    ws.AllAlone ws ((List.range ws.builders.length).map fun root => ⟨root, []⟩) := by
  refine ⟨rfl, ?_⟩
  rw [List.forall₂_map_left_iff, List.forall₂_iff_get]
  refine ⟨List.length_range, fun i _ inside => ?_⟩
  have found : ws.builders[i]? = some (ws.builders.get ⟨i, inside⟩) := by simp
  obtain ⟨q, seen⟩ := exists_builder? found
  refine ⟨q, ?_, sameRecord_of_builder? direct found seen⟩
  rw [alone?, List.get_eq_getElem, List.getElem_range, seen]
  rfl

/-- After any run, every builder has recorded what its branch would have recorded alone:
`AllAlone.run` from `allAlone_self`. -/
theorem references_run {ws : Workspace} (direct : ws.Direct) {steps : List Step}
    (branching : ∀ s ∈ steps, ws.Branching s) {i : Nat} {b : Branch}
    (ends : (branches ws.builders.length steps)[i]? = some b) :
    ∃ q r, ws.alone? b = some q ∧ (ws.run steps).builder? i = some r ∧
      r.references = q.references := by
  have alone := (allAlone_self direct).run direct branching
  have parallel := forall₂_getElem? alone.each i
  rw [branches] at ends
  rw [ends] at parallel
  generalize found : (ws.run steps).builders[i]? = recorded at parallel
  cases parallel with
  | some same =>
      obtain ⟨q, isAlone, same⟩ := same
      obtain ⟨r, seen⟩ := exists_builder? found
      refine ⟨q, r, isAlone, seen, ?_⟩
      rw [builder?, found] at seen
      cases seen
      rw [references_lookUp, same.references]

/-! ## Two branches -/

/-- The calls on a builder among calls on several. -/
def callsOn (id : Nat) (calls : List (Nat × Query.Call)) : List Query.Call :=
  calls.filterMap fun e => if e.1 = id then some e.2 else none

/-- Calls only make branches longer, each the one that they are on. -/
theorem branches_calls (bs : List Branch) (calls : List (Nat × Query.Call)) (i : Nat) :
    ((calls.map fun e => Step.call e.1 e.2).foldl Step.branch bs)[i]? =
      (bs[i]?).map fun b => { b with calls := b.calls ++ callsOn i calls } := by
  induction calls generalizing bs with
  | nil =>
      rw [List.map_nil, List.foldl_nil]
      cases bs[i]? <;> simp [callsOn]
  | cons e rest ih =>
      rw [List.map_cons, List.foldl_cons, ih, Step.branch, List.getElem?_modify]
      cases bs[i]? with
      | none => rfl
      | some b =>
          by_cases same : e.1 = i
          · simp [callsOn, same]
          · simp [callsOn, same]

/-- After a copy is made, the original and the copy are the ends of branches from the original, each
with the calls on it alone (`callsOn`). -/
theorem branches_copy {ws : Workspace} {id : Nat} {recorded : Query}
    (found : ws.builders[id]? = some recorded) (calls : List (Nat × Query.Call)) {i : Nat}
    (isBranch : i = id ∨ i = (ws.copy id).1) :
    (branches ws.builders.length (.copy id :: calls.map fun e => .call e.1 e.2))[i]? =
      some ⟨id, callsOn i calls⟩ := by
  have inside : id < ws.builders.length := (List.getElem?_eq_some_iff.mp found).1
  have original : ((List.range ws.builders.length).map fun root => (⟨root, []⟩ : Branch))[id]? =
      some ⟨id, []⟩ := by
    rw [List.getElem?_map, List.getElem?_range inside, Option.map_some]
  have start : (Step.branch ((List.range ws.builders.length).map fun root => ⟨root, []⟩)
      (.copy id))[i]? = some ⟨id, []⟩ := by
    rw [Step.branch, original, Option.toList_some]
    rcases isBranch with rfl | rfl
    · rw [List.getElem?_append_left (by simpa using inside), original]
    · have last : (ws.copy id).1 =
          ((List.range ws.builders.length).map fun root => (⟨root, []⟩ : Branch)).length := by
        rw [List.length_map, List.length_range, copy]
      rw [last, List.getElem?_concat_length]
  rw [branches, List.foldl_cons, branches_calls, start]
  rfl

/-- A `copy` has recorded the same as the original, and compiles to the same. From then on, whatever
calls are made on the two and on copies of them, and in whatever order, each has recorded what
`Query.run` of its own calls would have recorded alone. The steps have to be `Branching`, so that no
one writes to what is shared. -/
theorem copies_independent {before : List Step} {id : Nat} {recorded : Query}
    (found : (empty.run before).builders[id]? = some recorded) :
    let ws := empty.run before
    (ws.copy id).2.builders[(ws.copy id).1]? = some recorded ∧
    (ws.copy id).2.builders[id]? = some recorded ∧
    ((∀ u ∈ recorded.filters, ws.Builderless u) →
      ∀ scope, (scope.isNone = true → ws.Builderless recorded.config) →
      ((ws.copy id).2.compile (ws.copy id).1 scope).1 = ((ws.copy id).2.compile id scope).1 ∧
      ∀ projectId, ((ws.copy id).2.request (ws.copy id).1 scope projectId).1 =
        ((ws.copy id).2.request id scope projectId).1) ∧
    (∀ calls : List (Nat × Query.Call),
      (∀ e ∈ calls, ∀ v ∈ e.2.arguments, (ws.refresh v).isBuilder = false) →
      ∃ q, ws.builder? id = some q ∧ ∀ i, i = id ∨ i = (ws.copy id).1 →
        ∃ r, ((ws.copy id).2.run (calls.map fun e => .call e.1 e.2)).builder? i = some r ∧
          r.references = (q.run ((callsOn i calls).map (·.map ws.refresh))).references) ∧
    ∀ steps, (∀ s ∈ steps, ws.Branching s) →
      (ws.run steps).places = ws.places ∧
      ∀ i b, (branches ws.builders.length steps)[i]? = some b →
        ∃ q r, ws.alone? b = some q ∧ (ws.run steps).builder? i = some r ∧
          r.references = q.references := by
  intro ws
  have direct : ws.Direct := direct_empty.run before
  obtain ⟨asCopy, asOriginal⟩ := copy_builders found
  refine ⟨asCopy, asOriginal, ?_, ?_, ?_⟩
  · intro filters scope config
    exact compile_copy direct found filters config
  · intro calls noBuilder
    obtain ⟨q, seen⟩ := exists_builder? found
    refine ⟨q, seen, fun i isBranch => ?_⟩
    have branching : ∀ s ∈ Step.copy id :: calls.map (fun e => Step.call e.1 e.2),
        ws.Branching s := by
      rw [List.forall_mem_cons, List.forall_mem_map]
      exact ⟨trivial, noBuilder⟩
    obtain ⟨alone, r, isAlone, ends, same⟩ :=
      references_run direct branching (branches_copy found calls isBranch)
    rw [alone?, seen, Option.map_some, Option.some.injEq] at isAlone
    subst isAlone
    exact ⟨r, ends, same⟩
  · intro steps branching
    refine ⟨((allAlone_self direct).run direct branching).places, fun i b ends => ?_⟩
    exact references_run direct branching ends

/-- A strict builder, its copy, and a copy of that; there are a call that fails and a configuration
and a list that are shared. -/
theorem copies_independent_strict :
    let at_ (number : Nat) : Value := .object number fun _ => .none
    let compare : Value := .comparison 1 false (.text "a") (.member (.property .equal))
      (.mapping [(.text "integerValue", .text "1")])
    let before : List Step := [.place (.config .none (.bool true)), .place (.list [.text "a"]),
      .newBuilder (at_ 0), .call 0 (.filterBy compare), .call 0 (.properties [at_ 1])]
    let ws := empty.run before
    let calls : List (Nat × Query.Call) := [(0, .limit (.int (-1))), (1, .properties [at_ 1]),
      (0, .kindOf (.text "K")), (1, .orderBy (.order (.text "a") (.text "DESCENDING")))]
    let steps : List Step := [.copy 0, .call 1 (.kindOf (.text "K")), .copy 1,
      .call 0 .keysOnly, .call 2 (.limit (.int 5)), .call 1 (.limit (.int 7))]
    ∃ recorded q : Query, ws.builders[0]? = some recorded ∧ ws.builder? 0 = some q ∧
      (∀ u ∈ recorded.filters, ws.Builderless u) ∧ ws.Builderless recorded.config ∧
      (∀ e ∈ calls, ∀ v ∈ e.2.arguments, (ws.refresh v).isBuilder = false) ∧
      (∀ s ∈ steps, ws.Branching s) ∧
      (branches ws.builders.length steps)[2]? = some ⟨0, [.kindOf (.text "K"), .limit (.int 5)]⟩ ∧
      ((ws.copy 0).2.compile 1 .none).1 = ((ws.copy 0).2.compile 0 .none).1 ∧
      (∃ r, ((ws.copy 0).2.run (calls.map fun e => .call e.1 e.2)).builder? 0 = some r ∧
        r.references = (q.run [.limit (.int (-1)), .kindOf (.text "K")]).references) ∧
      ∃ r, (ws.run steps).builder? 2 = some r ∧
        r.references = (q.run [.kindOf (.text "K"), .limit (.int 5)]).references := by
  intro at_ compare before ws calls steps
  have succeeds : ∃ recorded, ws.builders[0]? = some recorded := ⟨_, rfl⟩
  obtain ⟨recorded, found⟩ := succeeds
  have filters : ∀ u ∈ recorded.filters, ws.Builderless u := by
    have units : (ws.builders[0]?).map (·.filters) = some [compare] := rfl
    rw [found, Option.map_some, Option.some.injEq] at units
    rw [units, List.forall_mem_singleton]
    exact ws.builderless_of_refs_eq_nil rfl
  have config : ws.Builderless recorded.config := by
    have atPlace : ∃ look, (ws.builders[0]?).map (·.config) = some (.object 0 look) := ⟨_, rfl⟩
    obtain ⟨look, atPlace⟩ := atPlace
    rw [found, Option.map_some, Option.some.injEq] at atPlace
    rw [atPlace]
    have there : ws.places[0]? = some (.config .none (.bool true)) := rfl
    intro id state finds
    cases finds with
    | here among => cases List.mem_singleton.mp among
    | place among found inside =>
        cases List.mem_singleton.mp among
        rw [there] at found
        cases found
        exact ws.builderless_of_refs_eq_nil rfl id state inside
  have noBuilder : ∀ e ∈ calls, ∀ v ∈ e.2.arguments, (ws.refresh v).isBuilder = false := by
    simp only [calls, List.forall_mem_cons, List.not_mem_nil, false_implies, implies_true,
      and_true, Query.Call.arguments]
    exact ⟨rfl, rfl, rfl, rfl⟩
  have branching : ∀ s ∈ steps, ws.Branching s := by
    simp only [steps, List.forall_mem_cons, List.not_mem_nil, false_implies, implies_true,
      and_true, Branching, Query.Call.arguments]
    exact ⟨trivial, rfl, trivial, trivial, rfl, rfl⟩
  have ends : (branches ws.builders.length steps)[2]? =
      some ⟨0, [.kindOf (.text "K"), .limit (.int 5)]⟩ := rfl
  obtain ⟨-, -, compiles, two, tree⟩ := copies_independent found
  obtain ⟨q, seen, two⟩ := two calls noBuilder
  obtain ⟨alone, r, isAlone, seenAs, same⟩ := (tree steps branching).2 2 _ ends
  rw [alone?, seen] at isAlone
  cases isAlone
  exact ⟨recorded, q, found, seen, filters, config, noBuilder, branching, ends,
    (compiles filters .none fun _ => config).1, two 0 (.inl rfl), r, seenAs, same⟩

end Workspace

end EntityQuery
