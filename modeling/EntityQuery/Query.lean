import EntityQuery.Compile

/-!
# Builders

A builder accumulates kinds, projections, filter units, orders, groups, a cursor and paging,
one call after another, and is compiled as often as wanted.

* A call is a value of `Query.Call`, and `Query.apply` is the step function: the state after
  the call, with the events and the outcome of the call. Every call touches one field only.
* Nothing that is recorded is checked, with one exception: builders whose configuration is
  strict refuse negative limits and offsets.
* A call that fails leaves the state as it was, with one exception: names of properties are
  recorded as they are met, so those before the offending one stay.
-/

namespace EntityQuery

/-- A builder, as what it has recorded. -/
abbrev Query := QueryState Value

namespace Query

/-- The configuration of builders that are given none. -/
def defaultConfig : Value := .config .none (.bool false)

/-- A new builder. -/
def new (config : Value) : Query where
  config := if config.truthy then config else defaultConfig
  kinds := []
  projections := []
  filters := []
  orders := []
  groups := []
  startCursor := .none
  limit := .none
  offset := .int 0

/-- A call on a builder that changes it. -/
inductive Call where
  /-- Return keys only. -/
  | keysOnly
  /-- Return the named properties only; each argument is a name or is gone through. -/
  | properties (names : List Value)
  | kindOf (kind : Value)
  | filterBy (unit : Value)
  | orderBy (order : Value)
  | groupBy (group : Value)
  | fromCursor (cursor : Value)
  | limit (limit : Value)
  | offset (offset : Value)
  | clearOffset

/-- What a call brings about: the state after it, its events, and whether it failed. -/
structure Effect where
  state : Query
  outcome : Traced Unit

/-- A call that only changes the state. -/
def Effect.done (state : Query) : Effect := ⟨state, pure ()⟩

/-- A call that fails and leaves the given state. -/
def Effect.failed (state : Query) (e : Failure) : Effect := ⟨state, .fail e⟩

/-- Is a value less than zero? Only numbers can be asked, truth values among them. -/
def isNegative (v : Value) : Except Failure Bool :=
  match v.content with
  | .bool _ => .ok false
  | .int n => .ok (n < 0)
  | .float x => .ok x.isNegative
  | v => .error (.unordered v.typeName)

/-- Does the configuration of a builder ask for checks of paging? -/
def isStrict (config : Value) : Except Failure Bool :=
  match config.content with
  | .config _ strict => .ok strict.truthy
  | config => .error (.noAttribute config.typeName "strict")

/-- Refuses a negative page setting if the configuration is strict. The text of the setting is part
of the refusal, so a number that cannot be written out fails as that. -/
def checkPage (config : Value) (field : PageField) (v : Value) : Except Failure Unit := do
  if ← isStrict config then
    -- Asked under a strict configuration only, where a value without an order fails.
    if ← isNegative v then
      let shown ← v.display
      throw (.rejected (.negative field shown v))

/-- The names that an argument of a projection call stands for. -/
def namesOf (v : Value) : Except Failure (List Value) :=
  if v.asText?.isSome then .ok [v] else v.items

/-- Records the names of some arguments, up to the first one that has none. What is recorded by then
stays, though the call fails. -/
def project (projections : List Value) : List Value → List Value × Except Failure Unit
  | [] => (projections, .ok ())
  | v :: rest =>
      match namesOf v with
      -- Recorded before the next argument is looked at.
      | .ok names => project (projections ++ names) rest
      | .error e => (projections, .error e)

/-- The effect of a call. Orders and groups are compiled here, paging is checked here, and
everything else is recorded as it is. -/
def apply (q : Query) : Call → Effect
  | .keysOnly =>
      .done { q with projections := q.projections ++ [.text Condition.keyProperty] }
  | .properties names =>
      let (projections, result) := project q.projections names
      ⟨{ q with projections }, .lift result⟩
  | .kindOf kind => .done { q with kinds := q.kinds ++ [kind] }
  | .filterBy unit => .done { q with filters := q.filters ++ [unit] }
  | .orderBy order =>
      let compiled := order.compileAlone
      match compiled.result with
      | .ok m => ⟨{ q with orders := q.orders ++ [m] }, ⟨compiled.events, .ok ()⟩⟩
      | .error e => ⟨q, ⟨compiled.events, .error e⟩⟩
  | .groupBy group =>
      let compiled := group.compileAlone
      match compiled.result with
      | .ok m => ⟨{ q with groups := q.groups ++ [m] }, ⟨compiled.events, .ok ()⟩⟩
      | .error e => ⟨q, ⟨compiled.events, .error e⟩⟩
  | .fromCursor cursor => .done { q with startCursor := cursor }
  | .limit limit =>
      match checkPage q.config .limit limit with
      | .ok () => .done { q with limit }
      | .error e => .failed q e
  | .offset offset =>
      match checkPage q.config .offset offset with
      | .ok () => .done { q with offset }
      | .error e => .failed q e
  | .clearOffset => .done { q with offset := .int 0 }

/-- The state after a run of calls; a failing call does not end the run. -/
def run (q : Query) (calls : List Call) : Query :=
  calls.foldl (fun q call => (q.apply call).state) q

@[simp] theorem run_nil (q : Query) : q.run [] = q := rfl

@[simp] theorem run_cons (q : Query) (call : Call) (calls : List Call) :
    q.run (call :: calls) = Query.run (q.apply call).state calls := rfl

/-- A run in two parts is the second part after the first. -/
theorem run_append (q : Query) (calls calls' : List Call) :
    q.run (calls ++ calls') = Query.run (q.run calls) calls' := by
  simp [run]

/-! ## Compilation -/

/-- Compiles a builder for a namespace, or for the configured one if none is given. -/
def compile (q : Query) (scope : Value) : Traced (QueryMessage Value) :=
  compileState q scope

/-- Compiles a builder and wraps the result in a request. The `PartitionId` is made first, so where
that fails nothing is compiled. -/
def request (q : Query) (scope projectId : Value) : Traced (RequestMessage Value) := do
  let scope ← effectiveScope q.config scope
  let partition ← PartitionId.make projectId scope
  let query ← q.compile scope
  return ⟨partition, query⟩

end Query

end EntityQuery
