import Mathlib.Data.List.Forall2
import EntityQuery.Proofs.Acceptance
import EntityQuery.Proofs.Steps

/-!
# Visits

A compilation calls the units of a builder and those inside of them, from left to right, parts
before the combination that they are in. Each is called once for every occurrence, until one of
them fails. Units that record the namespaces they are compiled for tell who has been called.

* `Value.nodes` lists a unit and the units inside of it in the order in which they are done with,
  and `upToFirst` cuts such a list off after the first failure.
* `Value.IsBuilderless.compile_visits` is about one unit, `compileUnits_visits` about the units of a
  builder, and `Query.compile_visits` about a builder.
* `Workspace.visits_of_compilations` is about any number of compilations, which leave nothing else
  behind.
-/

namespace EntityQuery

/-! ## Lists up to a first item -/

/-- The items of a list up to the first one with a property, which is the last of them. A
compilation stops at the first unit that fails, but that unit has been called. -/
def upToFirst {α : Type} (p : α → Bool) : List α → List α
  | [] => []
  | a :: rest => if p a then [a] else a :: upToFirst p rest

theorem upToFirst_append {α : Type} (p : α → Bool) (l l' : List α) :
    upToFirst p (l ++ l') = if l.any p then upToFirst p l else l ++ upToFirst p l' := by
  induction l with
  | nil => rfl
  | cons a rest ih =>
      rw [List.cons_append, upToFirst, upToFirst, List.any_cons]
      by_cases first : p a = true
      · simp [first]
      · rw [if_neg first, if_neg first, ih]
        rw [Bool.not_eq_true] at first
        rw [first, Bool.false_or]
        split <;> rfl

@[simp] theorem upToFirst_singleton {α : Type} (p : α → Bool) (a : α) : upToFirst p [a] = [a] := by
  rw [upToFirst, upToFirst, ite_self]

/-- Nothing is cut off where there is no item with the property. -/
theorem upToFirst_eq_self {α : Type} {p : α → Bool} {l : List α} (h : l.any p = false) :
    upToFirst p l = l := by
  have all := upToFirst_append p l []
  rw [List.append_nil, h] at all
  simpa [upToFirst] using all

/-! ## Visits of a computation -/

/-- What is kept of the events of a computation. Visits are one selection and log records another,
and both go through `>>=` in the same way. -/
def Traced.kept {α γ : Type} (keep? : Event → Option γ) (x : Traced α) : List γ :=
  x.events.filterMap keep?

/-- The visit that an event is. -/
def Event.visit? : Event → Option (Nat × Value)
  | .visited mark scope => some (mark, scope)
  | .logged _ => none

/-- The visits among the events of a computation. -/
def Traced.visits {α : Type} (x : Traced α) : List (Nat × Value) := x.events.filterMap Event.visit?

namespace Traced

variable {α β γ : Type}

/-- `kept` of two computations in a row, where the first one succeeds; -/
theorem kept_bind_of_ok (keep? : Event → Option γ) {x : Traced α} {a : α} (h : x.result = .ok a)
    (f : α → Traced β) : (x >>= f).kept keep? = x.kept keep? ++ (f a).kept keep? := by
  rw [bind_of_ok h, kept, List.filterMap_append]
  rfl

/-- where it fails, the second one leaves nothing. -/
theorem kept_bind_of_error (keep? : Event → Option γ) {x : Traced α} {e : Failure}
    (h : x.result = .error e) (f : α → Traced β) : (x >>= f).kept keep? = x.kept keep? := by
  rw [bind_of_error h]
  rfl

/-- What has no such events of its own adds none. -/
theorem kept_bind_of_forall {keep? : Event → Option γ} {x : Traced α} {f : α → Traced β}
    (silent : ∀ a, (f a).kept keep? = []) : (x >>= f).kept keep? = x.kept keep? := by
  cases h : x.result with
  | ok a => rw [kept_bind_of_ok keep? h, silent, List.append_nil]
  | error e => rw [kept_bind_of_error keep? h]

theorem visits_bind_of_ok {x : Traced α} {a : α} (h : x.result = .ok a) (f : α → Traced β) :
    (x >>= f).visits = x.visits ++ (f a).visits :=
  kept_bind_of_ok Event.visit? h f

theorem visits_bind_of_error {x : Traced α} {e : Failure} (h : x.result = .error e)
    (f : α → Traced β) : (x >>= f).visits = x.visits :=
  kept_bind_of_error Event.visit? h f

/-- What has no events of its own adds no visits. -/
theorem visits_bind_of_forall {x : Traced α} {f : α → Traced β} (silent : ∀ a, (f a).visits = []) :
    (x >>= f).visits = x.visits :=
  kept_bind_of_forall silent

end Traced

/-! ## Nodes -/

mutual

/-- A unit and the units inside of it, parts before the combination that they are in. That is the
order in which `compile` is done with them. -/
def Value.nodes : Value → List Value
  | .combination mark op parts => nodesIn parts ++ [.combination mark op parts]
  | .object _ look => (look ()).nodes
  | v => [v]
termination_by structural v => v

/-- Some units and the units inside of them. -/
def nodesIn : List Value → List Value
  | [] => []
  | v :: rest => v.nodes ++ nodesIn rest
termination_by structural units => units

end

/-- The mark of a unit that records the namespaces it is compiled for. -/
def Value.recorder? : Value → Option Nat
  | .recorder mark _ => some mark
  | _ => Option.none

/-- The visits that some units record if each of them is compiled for a namespace. -/
def visitsOf (n : Value) (nodes : List Value) : List (Nat × Value) :=
  (nodes.filterMap Value.recorder?).map (·, n)

theorem visitsOf_append (n : Value) (nodes nodes' : List Value) :
    visitsOf n (nodes ++ nodes') = visitsOf n nodes ++ visitsOf n nodes' := by
  rw [visitsOf, List.filterMap_append, List.map_append]
  rfl

/-- Does a unit fail to compile for a namespace? Its own failure is meant, and not that it answers
something else than a filter. -/
def Value.raises (u n : Value) : Bool :=
  match (u.compile n).result with
  | .ok _ => false
  | .error _ => true

theorem Value.raises_eq_false_iff {u n : Value} :
    u.raises n = false ↔ ∃ answer, (u.compile n).result = .ok answer := by
  unfold raises
  cases (u.compile n).result <;> simp

theorem Value.raises_of_error {u n : Value} {e : Failure} (h : (u.compile n).result = .error e) :
    u.raises n = true := by
  rw [raises, h]

/-- Is the unit neither a combination nor a builder? -/
def Value.isLeaf : Value → Bool
  | .combination .. | .object .. | .query .. | .unseen => false
  | _ => true

/-- A unit that is no builder and has none for a part. A builder compiles units of its own, for a
namespace that may be another one. -/
inductive Value.IsBuilderless : Value → Prop where
  | leaf {v : Value} (isLeaf : v.isLeaf = true) : IsBuilderless v
  | combination {mark : Nat} {op : Value} {parts : List Value}
      (each : ∀ p ∈ parts, IsBuilderless p) : IsBuilderless (.combination mark op parts)
  | object {number : Nat} {look : Unit → Value} (seen : IsBuilderless (look ())) :
      IsBuilderless (.object number look)

theorem Value.nodes_of_isLeaf {v : Value} (h : v.isLeaf = true) : v.nodes = [v] := by
  cases v <;> first | rfl | cases h

/-- A leaf records its own visit, whether it fails or not. -/
theorem Value.compile_visits_of_isLeaf {v : Value} (h : v.isLeaf = true) (n : Value) :
    (v.compile n).visits = visitsOf n [v] := by
  cases v <;> first | rfl | cases h

/-! ## Units -/

variable {n : Value}

/-- What the induction on units carries: the visits of a unit are those of its `nodes` up to the
first that `raises`, and it fails just if one of them does. -/
structure Value.VisitsNodes (u n : Value) : Prop where
  visits : (u.compile n).visits = visitsOf n (upToFirst (·.raises n) u.nodes)
  raises : u.raises n = u.nodes.any (·.raises n)

/-- `compileParts` calls the parts up to the first that fails; with `upToFirst_append` the lists of
nodes join up. -/
theorem compileParts_visits {parts : List Value} (each : ∀ p ∈ parts, p.VisitsNodes n) :
    (compileParts parts n).visits = visitsOf n (upToFirst (·.raises n) (nodesIn parts)) ∧
      ((∃ answers, (compileParts parts n).result = .ok answers) ↔
        (nodesIn parts).any (·.raises n) = false) := by
  induction parts with
  | nil => exact ⟨rfl, iff_of_true ⟨_, rfl⟩ rfl⟩
  | cons p rest ih =>
      obtain ⟨first, others⟩ := List.forall_mem_cons.mp each
      obtain ⟨visits, succeeds⟩ := ih others
      rw [nodesIn, upToFirst_append, List.any_append, ← first.raises, compileParts]
      cases compiled : (p.compile n).result with
      | error e =>
          rw [Value.raises_of_error compiled, if_pos rfl, Traced.visits_bind_of_error compiled,
            Traced.bind_of_error compiled]
          exact ⟨first.visits, by simp⟩
      | ok answer =>
          -- A part that answers is not where the list is cut, so all of its nodes are called.
          have passes : p.raises n = false := Value.raises_eq_false_iff.mpr ⟨answer, compiled⟩
          have whole := first.visits
          rw [upToFirst_eq_self (first.raises ▸ passes)] at whole
          rw [passes, if_neg (by simp), visitsOf_append, ← whole, ← visits, Bool.false_or,
            ← succeeds, Traced.visits_bind_of_ok compiled, Traced.bind_result_of_ok compiled,
            Traced.visits_bind_of_forall fun _ => rfl]
          refine ⟨rfl, ?_⟩
          constructor
          · rintro ⟨_, made⟩
            obtain ⟨answers, others, -⟩ := Traced.bind_result_eq_ok.mp made
            exact ⟨answers, others⟩
          · rintro ⟨answers, others⟩
            exact ⟨_, Traced.bind_result_eq_ok.mpr ⟨answers, others, rfl⟩⟩

/-- A unit without builders calls the units inside of it up to the first that fails. -/
theorem Value.IsBuilderless.visitsNodes {u : Value} (h : u.IsBuilderless) : u.VisitsNodes n := by
  induction h with
  | @leaf v isLeaf =>
      refine ⟨?_, ?_⟩
      · rw [compile_visits_of_isLeaf isLeaf, nodes_of_isLeaf isLeaf, upToFirst_singleton]
      · rw [nodes_of_isLeaf isLeaf, List.any_cons, List.any_nil, Bool.or_false]
  | @combination mark op parts _ ih =>
      obtain ⟨visits, succeeds⟩ := compileParts_visits ih
      refine ⟨?_, ?_⟩
      · -- The combination itself is a node without a visit.
        rw [compile, Traced.visits_bind_of_forall fun _ => rfl, visits, nodes, upToFirst_append]
        split
        · rfl
        · next none =>
            rw [Bool.not_eq_true] at none
            rw [upToFirst_eq_self none, upToFirst_singleton, visitsOf_append]
            exact (List.append_nil _).symm
      · rw [nodes, List.any_append, List.any_cons, List.any_nil, Bool.or_false]
        -- A combination raises if one of its parts does, and only after that on its own account.
        cases failed : (nodesIn parts).any (·.raises n) with
        | false => rw [Bool.false_or]
        | true =>
            cases compiled : (compileParts parts n).result with
            | ok answers =>
                rw [succeeds.mp ⟨answers, compiled⟩] at failed
                cases failed
            | error e =>
                rw [Bool.true_or]
                refine raises_of_error (e := e) ?_
                rw [compile, Traced.bind_result_of_error compiled]
  | object _ ih => exact ⟨ih.visits, ih.raises⟩

/-- Does a unit compile to a filter for a namespace? -/
def Value.answersFilter (u n : Value) : Bool :=
  u.isCompilable && match (u.compile n).result with
    | .ok answer =>
        match answer.content with
        | .message (.filter _) => true
        | _ => false
    | .error _ => false

theorem Value.answersFilter_iff {u : Value} : u.answersFilter n = true ↔ CompilesToFilter n u := by
  rw [answersFilter, Bool.and_eq_true, CompilesToFilter]
  refine and_congr_right fun _ => ?_
  cases (u.compile n).result with
  | error e => simp
  | ok answer =>
      dsimp only
      split
      · next f seen => exact iff_of_true rfl ⟨answer, f, rfl, seen⟩
      · next other =>
          refine iff_of_false (by simp) ?_
          rintro ⟨_, f, same, seen⟩
          cases same
          exact other f seen

theorem Value.compile_visits_of_not_isCompilable {v : Value} (h : v.isCompilable = false) :
    (v.compile n).visits = [] := by
  induction v using Value.content.induct with
  | case1 _ look ih => exact ih h
  | case2 v notObject =>
      cases v with
      | object _ look => exact absurd rfl (notObject _ look)
      | comparison | combination | order | group | query | recorder | answering | unseen =>
          cases h
      | _ => rfl

/-- `compileUnits` also stops at a unit that answers no filter, so there are two cuts: one among the
units, and one among the nodes of what is left. -/
theorem compileUnits_visits {units : List Value} (alone : ∀ u ∈ units, u.IsBuilderless)
    (index : Nat) :
    (compileUnits units index n).visits =
      visitsOf n (upToFirst (·.raises n)
        (nodesIn (upToFirst (fun u => !u.answersFilter n) units))) := by
  induction units generalizing index with
  | nil => rfl
  | cons u rest ih =>
      obtain ⟨first, others⟩ := List.forall_mem_cons.mp alone
      have calls := first.visitsNodes (n := n)
      -- A unit that answers no filter is the last one, and it has called what is inside of it up to
      -- its own first failure, if it has one.
      rw [compileUnits, upToFirst]
      by_cases isFilter : u.answersFilter n = true
      · obtain ⟨compilable, answer, f, compiled, seen⟩ := Value.answersFilter_iff.mp isFilter
        have passes : u.raises n = false := Value.raises_eq_false_iff.mpr ⟨answer, compiled⟩
        have whole := calls.visits
        rw [upToFirst_eq_self (calls.raises ▸ passes)] at whole
        rw [if_pos compilable, Traced.visits_bind_of_ok compiled, seen, isFilter, Bool.not_true,
          if_neg (by simp), nodesIn, upToFirst_append, ← calls.raises, passes, if_neg (by simp),
          visitsOf_append, whole, ← ih others (index + 1)]
        congr 1
        exact Traced.visits_bind_of_forall fun _ => rfl
      · rw [Bool.not_eq_true] at isFilter
        rw [isFilter, Bool.not_false, if_pos rfl, nodesIn, nodesIn, List.append_nil, ← calls.visits]
        by_cases compilable : u.isCompilable = true
        · rw [if_pos compilable]
          cases compiled : (u.compile n).result with
          | error e => exact Traced.visits_bind_of_error compiled _
          | ok answer =>
              rw [Traced.visits_bind_of_ok compiled]
              split
              · next f seen =>
                  have filter := Value.answersFilter_iff.mpr ⟨compilable, answer, f, compiled, seen⟩
                  rw [isFilter] at filter
                  cases filter
              · rw [Traced.visits_bind_of_forall fun _ => rfl]
                exact List.append_nil _
        · rw [if_neg compilable]
          rw [Bool.not_eq_true] at compilable
          rw [Value.compile_visits_of_not_isCompilable compilable]
          exact Traced.visits_bind_of_forall fun _ => rfl

theorem nodesIn_eq_flatMap (units : List Value) : nodesIn units = units.flatMap Value.nodes := by
  induction units with
  | nil => rfl
  | cons u rest ih => rw [nodesIn, ih, List.flatMap_cons]

/-! ## Builders -/

namespace Query

/-- The units that a builder calls when it is compiled for a namespace, in the order in which they
are done with. None is called if `compileNames` fails; otherwise the last one may have failed. -/
def called (q : Query) (n : Value) : List Value :=
  if (badName? q.kinds).isSome || (badName? q.projections).isSome then []
  else upToFirst (·.raises n) (nodesIn (upToFirst (fun u => !u.answersFilter n) q.filters))

/-- The marks of the recording units of a builder, one for each occurrence, from left to right. -/
def occurrences (q : Query) : List Nat := (nodesIn q.filters).filterMap Value.recorder?

/-- A builder none of whose units is a builder or has one for a part. -/
def IsBuilderless (q : Query) : Prop := ∀ u ∈ q.filters, u.IsBuilderless

/-- `compileNames` comes before the units, so a bad name means that there are no visits at all. -/
theorem compile_visits_names {q : Query} {scope n : Value}
    (effective : effectiveScope q.config scope = .ok n) (described : ∃ s, n.describe = .ok s) :
    (q.compile scope).visits =
      match compileNames q.kinds q.projections with
      | .ok _ => (compileUnits q.filters 0 n).visits
      | .error _ => [] := by
  obtain ⟨shown, described⟩ := described
  obtain ⟨config, kinds, projections, filters, orders, groups, startCursor, limit, offset⟩ := q
  rw [compile, compileState, Traced.visits_bind_of_ok effective,
    Traced.visits_bind_of_ok described, Traced.visits_bind_of_ok rfl]
  cases compileNames kinds projections with
  | error e => rw [Traced.visits_bind_of_error rfl]; rfl
  | ok names =>
      rw [Traced.visits_bind_of_ok rfl, Traced.visits_bind_of_forall fun _ => rfl]
      rfl

/-- The visits of a compilation, whether it fails or not. -/
theorem compile_visits {q : Query} {scope n : Value} (alone : q.IsBuilderless)
    (effective : effectiveScope q.config scope = .ok n) (described : ∃ s, n.describe = .ok s) :
    (q.compile scope).visits = visitsOf n (q.called n) := by
  rw [compile_visits_names effective described, compileNames_eq, called, compileUnits_visits alone]
  cases badName? q.kinds <;> cases badName? q.projections <;> rfl

theorem request_visits {q : Query} {scope n : Value} (projectId : Value)
    (effective : effectiveScope q.config scope = .ok n) :
    ((∃ partition, PartitionId.make projectId n = .ok partition) →
      (q.request scope projectId).visits = (q.compile scope).visits) ∧
    (∀ e, PartitionId.make projectId n = .error e → (q.request scope projectId).visits = []) := by
  rw [request, Traced.visits_bind_of_ok effective, compile_effectiveScope effective]
  constructor
  · rintro ⟨partition, made⟩
    rw [Traced.visits_bind_of_ok made, Traced.visits_bind_of_forall fun _ => rfl]
    rfl
  · intro e failed
    rw [Traced.visits_bind_of_error failed]
    rfl

theorem called_of_compile {q : Query} {scope n : Value} {m : QueryMessage Value}
    (alone : q.IsBuilderless) (effective : effectiveScope q.config scope = .ok n)
    (compiled : (q.compile scope).result = .ok m) : q.called n = nodesIn q.filters := by
  have compiles := compilesAs_of_compile effective compiled
  have named : compileNames q.kinds q.projections = .ok (m.kinds, m.projections) :=
    compileNames_eq_ok_iff.mpr ⟨compiles.kinds, compiles.projections⟩
  obtain ⟨noKind, noProjection⟩ := exists_compileNames_eq_ok_iff.mp ⟨_, named⟩
  obtain ⟨fs, each, -⟩ := compiles.filter
  have filters := compilesToFilter_iff.mpr ⟨fs, each⟩
  have none : q.filters.any (fun u => !u.answersFilter n) = false := by
    rw [List.any_eq_false]
    intro u hu
    rw [Value.answersFilter_iff.mpr (filters u hu), Bool.not_true]
    exact Bool.false_ne_true
  have pass : (nodesIn q.filters).any (·.raises n) = false := by
    rw [nodesIn_eq_flatMap, List.any_flatMap, List.any_eq_false]
    intro u hu
    obtain ⟨-, answer, f, compiled, -⟩ := filters u hu
    rw [← ((alone u hu).visitsNodes (n := n)).raises,
      Value.raises_eq_false_iff.mpr ⟨answer, compiled⟩]
    exact Bool.false_ne_true
  rw [called, noKind, noProjection, upToFirst_eq_self none, upToFirst_eq_self pass]
  rfl

end Query

/-! ## Workspaces -/

namespace Workspace

theorem absorb_visits (ws : Workspace) {α : Type} (x : Traced α) :
    ws.absorb x.events = { ws with visits := ws.visits ++ x.visits } := by
  rw [absorb, Traced.visits]
  congr 3

/-- A step that compiles a builder. -/
def Step.IsCompilation : Step → Prop
  | .compile .. | .request .. => True
  | _ => False

/-- A compilation leaves visits behind, and nothing else: builders and places stay. -/
theorem step_of_isCompilation (ws : Workspace) {s : Step} (h : s.IsCompilation) :
    ws.step s = { ws with visits := (ws.step s).visits } := by
  cases s with
  | compile id scope =>
      rw [step, compile]
      split <;> rfl
  | request id scope projectId =>
      rw [step, request]
      split <;> rfl
  | _ => exact h.elim

theorem run_of_isCompilation {ws : Workspace} {steps : List Step}
    (h : ∀ s ∈ steps, s.IsCompilation) :
    ws.run steps = { ws with visits := (ws.run steps).visits } := by
  induction steps generalizing ws with
  | nil => rfl
  | cons s rest ih =>
      obtain ⟨first, others⟩ := List.forall_mem_cons.mp h
      rw [run_cons, ih others]
      rw [ws.step_of_isCompilation first]

theorem sight_visits (ws : Workspace) (visits : List (Nat × Value)) (steps : Nat)
    (way : List (Nat × QueryPart)) :
    ({ ws with visits } : Workspace).sight steps way = ws.sight steps way := by
  induction steps generalizing way with
  | zero => rfl
  | succ steps ih => simp only [sight, ih]

theorem refresh_visits (ws : Workspace) (visits : List (Nat × Value)) (v : Value) :
    ({ ws with visits } : Workspace).refresh v = ws.refresh v := by
  rw [refresh, refresh, sight_visits]
  rfl

theorem builder?_visits (ws : Workspace) (visits : List (Nat × Value)) (id : Nat) :
    ({ ws with visits } : Workspace).builder? id = ws.builder? id := by
  simp only [builder?, sight_visits]
  rfl

/-- The visits that are seen of a recording unit are those before and those after. -/
theorem seen_append (ws : Workspace) (visits : List (Nat × Value)) (mark : Nat) :
    ({ ws with visits := ws.visits ++ visits } : Workspace).seen mark =
      ws.seen mark ++ (visits.filter (·.1 == mark)).map fun visit => ws.refresh visit.2 := by
  simp only [seen, refresh_visits, List.filter_append, List.map_append]

/-- A builder that is compiled for a namespace by a step that succeeds, with what is seen of the
builder and the effective namespace. -/
inductive Compiles (ws : Workspace) : Step → Query × Value → Prop where
  | compile {id : Nat} {scope n : Value} {q : Query} {m : QueryMessage Value}
      (seen : ws.builder? id = some q)
      (effective : effectiveScope q.config (ws.refresh scope) = .ok n)
      (compiled : (q.compile (ws.refresh scope)).result = .ok m) :
      Compiles ws (.compile id scope) (q, n)
  | request {id : Nat} {scope projectId n : Value} {q : Query} {m : RequestMessage Value}
      (seen : ws.builder? id = some q)
      (effective : effectiveScope q.config (ws.refresh scope) = .ok n)
      (requested : (q.request (ws.refresh scope) (ws.refresh projectId)).result = .ok m) :
      Compiles ws (.request id scope projectId) (q, n)

theorem Compiles.isCompilation {ws : Workspace} {s : Step} {run : Query × Value}
    (h : ws.Compiles s run) : s.IsCompilation := by
  cases h <;> trivial

/-- A compilation succeeds whatever has been visited before, which lets a run of them be taken
apart. -/
theorem Compiles.visits {ws : Workspace} {s : Step} {run : Query × Value} (h : ws.Compiles s run)
    (visits : List (Nat × Value)) : ({ ws with visits } : Workspace).Compiles s run := by
  cases h with
  | compile seen effective compiled =>
      rw [← ws.refresh_visits visits] at effective compiled
      exact .compile ((ws.builder?_visits visits _).trans seen) effective compiled
  | request seen effective requested =>
      rw [← ws.refresh_visits visits] at effective
      rw [← ws.refresh_visits visits, ← ws.refresh_visits visits] at requested
      exact .request ((ws.builder?_visits visits _).trans seen) effective requested

/-- The visits after a compilation, by whatever it is called. -/
theorem compile_visits {ws : Workspace} {id : Nat} {q : Query} (seen : ws.builder? id = some q)
    (scope : Value) : (ws.compile id scope).2.visits = ws.visits ++ (q.compile scope).visits := by
  rw [compile, seen]
  exact congrArg Workspace.visits (ws.absorb_visits _)

theorem request_visits {ws : Workspace} {id : Nat} {q : Query} (seen : ws.builder? id = some q)
    (scope projectId : Value) :
    (ws.request id scope projectId).2.visits =
      ws.visits ++ (q.request scope projectId).visits := by
  rw [request, seen]
  exact congrArg Workspace.visits (ws.absorb_visits _)

theorem Compiles.step_visits {ws : Workspace} {s : Step} {run : Query × Value}
    (h : ws.Compiles s run) (alone : run.1.IsBuilderless) :
    (ws.step s).visits = ws.visits ++ run.1.occurrences.map (·, run.2) := by
  cases h with
  | compile seen effective compiled =>
      rw [step, compile_visits seen, Query.compile_visits alone effective
        (Query.describe_of_compile effective compiled), Query.called_of_compile alone effective
        compiled]
      rfl
  | request seen effective requested =>
      obtain ⟨made, compiled⟩ := (Query.request_eq_ok_iff effective).mp requested
      rw [step, request_visits seen, (Query.request_visits _ effective).1 ⟨_, made⟩,
        Query.compile_visits alone effective (Query.describe_of_compile effective compiled),
        Query.called_of_compile alone effective compiled]
      rfl

theorem isCompilation_of_compiles {ws : Workspace} {steps : List Step}
    {runs : List (Query × Value)} (compile : List.Forall₂ ws.Compiles steps runs) :
    ∀ s ∈ steps, s.IsCompilation := by
  induction compile with
  | nil => simp
  | cons first _ ih => exact List.forall_mem_cons.mpr ⟨first.isCompilation, ih⟩

/-- One of several units has as many visits as it has occurrences. -/
theorem map_filter_visits {α : Type} (marks : List Nat) (n : Value) (mark : Nat) (f : Value → α) :
    (((marks.map (·, n)).filter (·.1 == mark)).map fun visit => f visit.2) =
      List.replicate (marks.count mark) (f n) := by
  induction marks with
  | nil => rfl
  | cons m rest ih =>
      rw [List.map_cons, List.filter_cons, List.count_cons]
      by_cases same : m = mark
      · subst same
        simp [ih, List.replicate_succ]
      · simp [same, ih]

/-- By induction on the steps: compilations that succeed visit every occurrence, one compilation
after another. -/
theorem run_visits {ws : Workspace} {steps : List Step} {runs : List (Query × Value)}
    (compile : List.Forall₂ ws.Compiles steps runs) (alone : ∀ run ∈ runs, run.1.IsBuilderless) :
    (ws.run steps).visits =
      ws.visits ++ runs.flatMap fun run => run.1.occurrences.map (·, run.2) := by
  induction steps generalizing ws runs with
  | nil =>
      cases compile
      exact (List.append_nil _).symm
  | cons s steps ih =>
      cases compile with
      | @cons _ run _ runs first others =>
          obtain ⟨aloneFirst, aloneOthers⟩ := List.forall_mem_cons.mp alone
          have visits := first.step_visits aloneFirst
          -- The other compilations are of the workspace as it was, but for the visits.
          rw [run_cons, ws.step_of_isCompilation first.isCompilation, visits,
            ih (others.imp fun _ _ h => h.visits _) aloneOthers, List.flatMap_cons,
            List.append_assoc]

/-- Compilations change no builder and no place, whether they succeed or fail. A compilation calls
the units of a builder and those inside of them, parts before the combination that they are in,
until one of them fails, and none if there is a bad name (`Query.called`). Those that succeed have
called every unit once for each of its `occurrences`, from left to right, so that a recording unit
has `seen` the namespace of each compilation as often as it occurs in the builder. -/
theorem visits_of_compilations (ws : Workspace) :
    (∀ steps : List Step, (∀ s ∈ steps, s.IsCompilation) →
      (ws.run steps).builders = ws.builders ∧ (ws.run steps).places = ws.places ∧
        ∀ id, (ws.run steps).builder? id = ws.builder? id) ∧
    (∀ (id : Nat) (q : Query) (scope n : Value), ws.builder? id = some q → q.IsBuilderless →
      effectiveScope q.config scope = .ok n → (∃ shown, n.describe = .ok shown) →
      (ws.compile id scope).2.visits = ws.visits ++ visitsOf n (q.called n) ∧
      ∀ projectId, (ws.request id scope projectId).2.visits =
        ws.visits ++ match PartitionId.make projectId n with
          | .ok _ => visitsOf n (q.called n)
          | .error _ => []) ∧
    ∀ (steps : List Step) (runs : List (Query × Value)), List.Forall₂ ws.Compiles steps runs →
      (∀ run ∈ runs, run.1.IsBuilderless) →
      (ws.run steps).visits =
        ws.visits ++ runs.flatMap (fun run => run.1.occurrences.map (·, run.2)) ∧
      ∀ mark, (ws.run steps).seen mark = ws.seen mark ++ runs.flatMap fun run =>
        List.replicate (run.1.occurrences.count mark) (ws.refresh run.2) := by
  refine ⟨?_, ?_, ?_⟩
  · intro steps compilations
    rw [run_of_isCompilation compilations]
    exact ⟨rfl, rfl, ws.builder?_visits _⟩
  · intro id q scope n seen alone effective described
    have visits := Query.compile_visits alone effective described
    refine ⟨by rw [compile_visits seen, visits], fun projectId => ?_⟩
    obtain ⟨made, failed⟩ := q.request_visits projectId effective
    rw [request_visits seen, ← visits]
    cases partition : PartitionId.make projectId n with
    | ok p => rw [made ⟨p, partition⟩]
    | error e => rw [failed e partition]
  · intro steps runs compile alone
    have visits := run_visits compile alone
    refine ⟨visits, fun mark => ?_⟩
    rw [run_of_isCompilation (isCompilation_of_compiles compile), visits, seen_append,
      List.filter_flatMap, List.map_flatMap]
    simp only [map_filter_visits]

/-- Two builders share a recording unit, which occurs twice in the first of them, and a third one
has a combination with a part that answers no filter. -/
theorem visits_of_compilations_shared :
    let config : Value := .config (.text "d") (.bool false)
    let both (parts : List Value) : Value := .combination 1 (.member (.composite .and)) parts
    let r₇ : Value := .recorder 7 (.text "a")
    let r₈ : Value := .recorder 8 (.text "b")
    let q₀ : Query := { Query.new config with filters := [r₇, both [r₈, r₇]] }
    let q₁ : Query := { Query.new config with filters := [r₇] }
    let q₂ : Query := { Query.new config with
      filters := [r₈, both [.answering 9 (.int 1), r₇], r₈] }
    let ws : Workspace := { empty with builders := [q₀, q₁, q₂] }
    let steps : List Step :=
      [.compile 0 (.text ""), .request 1 .none (.text "p"), .compile 0 .none]
    let runs : List (Query × Value) := [(q₀, .text ""), (q₁, .text "d"), (q₀, .text "d")]
    ((∀ s ∈ steps, s.IsCompilation) ∧ List.Forall₂ ws.Compiles steps runs ∧
      (∀ run ∈ runs, run.1.IsBuilderless) ∧ ws.builder? 2 = some q₂ ∧ q₂.IsBuilderless ∧
      effectiveScope q₂.config .none = .ok (.text "d") ∧
      ∃ shown, (Value.text "d").describe = .ok shown) ∧
    (ws.run steps).builders = [q₀, q₁, q₂] ∧
    (ws.compile 2 .none).2.visits = [(8, .text "d"), (7, .text "d")] ∧
    (ws.run steps).seen 7 = [.text "", .text "", .text "d", .text "d", .text "d"] := by
  intro config both r₇ r₈ q₀ q₁ q₂ ws steps runs
  have leaves : ∀ {units : List Value}, (∀ u ∈ units, u.isLeaf = true) →
      ∀ u ∈ units, u.IsBuilderless := fun isLeaf u hu => .leaf (isLeaf u hu)
  have alone₀ : q₀.IsBuilderless := by
    simp only [Query.IsBuilderless, q₀, List.forall_mem_cons, List.not_mem_nil, false_implies,
      implies_true, and_true]
    refine ⟨.leaf rfl, .combination (leaves ?_)⟩
    simp [r₇, r₈, Value.isLeaf]
  have alone₁ : q₁.IsBuilderless := leaves (by simp [q₁, r₇, Value.isLeaf])
  have alone₂ : q₂.IsBuilderless := by
    simp only [Query.IsBuilderless, q₂, List.forall_mem_cons, List.not_mem_nil, false_implies,
      implies_true, and_true]
    refine ⟨.leaf rfl, .combination (leaves ?_), .leaf rfl⟩
    simp [r₇, Value.isLeaf]
  have compilations : ∀ s ∈ steps, s.IsCompilation := by
    simp [steps, Step.IsCompilation]
  have compile : List.Forall₂ ws.Compiles steps runs :=
    .cons (.compile rfl rfl rfl) (.cons (.request rfl rfl rfl) (.cons (.compile rfl rfl rfl) .nil))
  have alone : ∀ run ∈ runs, run.1.IsBuilderless := by
    simp only [runs, List.forall_mem_cons, List.not_mem_nil, false_implies, implies_true, and_true]
    exact ⟨alone₀, alone₁, alone₀⟩
  have seen : ws.builder? 2 = some q₂ := rfl
  have effective : effectiveScope q₂.config .none = .ok (.text "d") := rfl
  have described : ∃ shown, (Value.text "d").describe = .ok shown := ⟨_, rfl⟩
  obtain ⟨pure, one, many⟩ := visits_of_compilations ws
  refine ⟨⟨compilations, compile, alone, seen, alone₂, effective, described⟩,
    (pure steps compilations).1, ?_, ?_⟩
  · rw [(one 2 q₂ .none (.text "d") seen alone₂ effective described).1]
    rfl
  · rw [(many steps runs compile alone).2]
    rfl

end Workspace

end EntityQuery
