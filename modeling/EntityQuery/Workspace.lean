import EntityQuery.Message.Marks
import EntityQuery.Query

/-!
# Workspaces

A workspace holds what can be met again: the values that callers keep, some of which they go on
changing after they have handed them out, the builders, and the visits that recording units have
had.

* Values refer to a place or a builder by number and carry a look at it. `Workspace.refresh`
  renews the looks, at every depth; it is applied to whatever is taken out of a workspace or
  used in it.
* A list or a mapping may come to hold itself, and then a look has no end; who takes it stops
  where a place is met again. Builders may hold each other, too, but they are looked at as a
  whole: on the way to a part, each part of a builder is opened once, after which nothing is
  left to be seen (`Value.unseen`).
* What a message copies when it is made is not part of a workspace: the mapping of a property
  filter is its own. What is nested in that mapping still is.
-/

namespace EntityQuery

/-- How references are looked up: what is at a place, and what a builder has recorded, given how
they were seen before. A value is a tree, so what is shared is only ever seen through a sight. -/
structure Sight where
  place : Nat → (Unit → Value) → Value
  builder : Nat → QueryState Value → Value

/-- What is left of a value whose parts are not looked at. -/
def Value.hull : Value → Value
  | .list _ => .list []
  | .tuple _ => .tuple []
  | .mapping _ => .mapping []
  | .object number look => .object number fun _ => (look ()).hull
  | .key .. => .key .none .none
  | .order .. => .order .none .none
  | .group _ => .group .none
  | .config .. => .config .none .none
  | .message _ => .message .bare
  | v => v

mutual

/-- A value with all references in it looked up. It goes through the value itself only; how far what
is found is looked into is up to the `Sight`. -/
def Value.lookUp (sight : Sight) : Value → Value
  | .list items => .list (lookUpItems sight items)
  | .tuple items => .tuple (lookUpItems sight items)
  | .mapping entries => .mapping (lookUpEntries sight entries)
  | .object number look => sight.place number look
  | .key path keyNamespace => .key (path.lookUp sight) (keyNamespace.lookUp sight)
  | .comparison mark isAncestor property op operand =>
      .comparison mark isAncestor (property.lookUp sight) (op.lookUp sight)
        (operand.lookUp sight)
  | .combination mark op parts => .combination mark (op.lookUp sight) (lookUpItems sight parts)
  | .order property direction => .order (property.lookUp sight) (direction.lookUp sight)
  | .group property => .group (property.lookUp sight)
  | .config defaultNamespace strict =>
      .config (defaultNamespace.lookUp sight) (strict.lookUp sight)
  | .message m => .message (lookUpMessage sight m)
  | .query id state => sight.builder id state
  | .recorder mark name => .recorder mark (name.lookUp sight)
  | .answering mark result => .answering mark (result.lookUp sight)
  | .scoped mark lead => .scoped mark (lead.lookUp sight)
  | .giving mark v => .giving mark (v.lookUp sight)
  | v => v
termination_by structural v => v

/-- Items with all references in them looked up. -/
def lookUpItems (sight : Sight) : List Value → List Value
  | [] => []
  | v :: rest => v.lookUp sight :: lookUpItems sight rest
termination_by structural items => items

/-- Entries with all references in them looked up. -/
def lookUpEntries (sight : Sight) : List (Value × Value) → List (Value × Value)
  | [] => []
  | (k, v) :: rest => (k.lookUp sight, v.lookUp sight) :: lookUpEntries sight rest
termination_by structural entries => entries

/-- The entries of a mapping from texts with all references in them looked up. -/
def lookUpMapping (sight : Sight) : List (String × Value) → List (String × Value)
  | [] => []
  | (k, v) :: rest => (k, v.lookUp sight) :: lookUpMapping sight rest
termination_by structural entries => entries

/-- A property filter with all references in it looked up. -/
def lookUpPropertyFilter (sight : Sight) : PropertyFilter Value → PropertyFilter Value
  | ⟨property, op, value, mark⟩ => ⟨property, op, lookUpMapping sight value, mark⟩
termination_by structural m => m

/-- A filter with all references in it looked up. -/
def lookUpFilter (sight : Sight) : Filter Value → Filter Value
  | .property m => .property (lookUpPropertyFilter sight m)
  | .composite op filters mark => .composite op (lookUpFilters sight filters) mark
termination_by structural m => m

/-- Filters with all references in them looked up. -/
def lookUpFilters (sight : Sight) : List (Filter Value) → List (Filter Value)
  | [] => []
  | f :: rest => lookUpFilter sight f :: lookUpFilters sight rest
termination_by structural filters => filters

/-- A filter that may be absent with all references in it looked up. -/
def lookUpFilter? (sight : Sight) : Option (Filter Value) → Option (Filter Value)
  | none => none
  | some f => some (lookUpFilter sight f)
termination_by structural filter => filter

/-- A compiled query with all references in it looked up. -/
def lookUpQueryMessage (sight : Sight) : QueryMessage Value → QueryMessage Value
  | ⟨kinds, projections, filter, orders, distinctOn, startCursor, limit, offset⟩ =>
      ⟨kinds, projections, lookUpFilter? sight filter, orders, distinctOn, startCursor, limit,
        offset⟩
termination_by structural m => m

/-- A message with all references in it looked up. -/
def lookUpMessage (sight : Sight) : Message Value → Message Value
  | .propertyFilter m => .propertyFilter (lookUpPropertyFilter sight m)
  | .compositeFilter ⟨op, filters, mark⟩ =>
      .compositeFilter ⟨op, lookUpFilters sight filters, mark⟩
  | .filter m => .filter (lookUpFilter sight m)
  | .query m => .query (lookUpQueryMessage sight m)
  | .request ⟨partition, query⟩ => .request ⟨partition, lookUpQueryMessage sight query⟩
  | m => m
termination_by structural m => m

end

/-- The parts of a builder that can hold references. -/
inductive QueryPart where
  | config
  | kinds
  | projections
  | filters
  | startCursor
  | limit
  | offset
  deriving DecidableEq, Repr

/-- What a builder has recorded, with all references in each part looked up in its own way. -/
def QueryState.lookUp (sight : QueryPart → Sight) (q : QueryState Value) : QueryState Value where
  config := q.config.lookUp (sight .config)
  kinds := lookUpItems (sight .kinds) q.kinds
  projections := lookUpItems (sight .projections) q.projections
  filters := lookUpItems (sight .filters) q.filters
  orders := q.orders
  groups := q.groups
  startCursor := q.startCursor.lookUp (sight .startCursor)
  limit := q.limit.lookUp (sight .limit)
  offset := q.offset.lookUp (sight .offset)

/-- How references are looked up where nothing is opened any more: builders show as `unseen`, and of
what is at a place the `hull` is left. -/
def Sight.closed : Sight where
  place := fun number look => .object number fun _ => (look ()).hull
  builder := fun _ _ => .unseen

/-- What can be met again. -/
structure Workspace where
  /-- What is at the places, by number. -/
  places : List Value
  /-- The builders, by number. -/
  builders : List Query
  /-- The visits to recording units: the unit, and the namespace it was compiled for. -/
  visits : List (Nat × Value)
  /-- The number of marks that have been given out. -/
  marks : Nat

namespace Workspace

/-- A workspace without anything. -/
def empty : Workspace := ⟨[], [], [], 0⟩

/-- A mark that has not been given out before. Marks are what identity comes down to here. -/
def freshMark (ws : Workspace) : Nat × Workspace := (ws.marks, { ws with marks := ws.marks + 1 })

/-! ## Looking -/

/-- How often a part of a builder is opened on one way. The paging of a builder is described
inside itself as long as there are other containers on the way; any other part that is met
inside itself is neither described nor compiled again. -/
def partTimes : QueryPart → Nat
  | .limit | .offset => 4
  | _ => 1

/-- How references are looked up in a workspace, for a number of steps, on the way through some
parts of builders. The steps bound what could otherwise go round for ever. -/
def sight (ws : Workspace) : Nat → List (Nat × QueryPart) → Sight
  | 0, _ => .closed
  | steps + 1, way =>
      { place := fun number look => .object number fun _ =>
          match ws.places[number]? with
          -- What is there now, and not what was there when the reference was made.
          | some v => v.lookUp (ws.sight steps way)
          | none => look ()
        builder := fun id state =>
          match ws.builders[id]? with
          | some q => .query id <| q.lookUp fun part =>
              -- Each part has a way of its own: a builder in its own filters may still show its
              -- kinds.
              if way.count (id, part) < partTimes part then ws.sight steps ((id, part) :: way)
              else .closed
          | none => .query id state }

/-- How many steps down a workspace is seen: past every place and every part of a builder, and
as far as the data of filters is looked at that are nested up to the limit, three places for
each of them. -/
def depth (ws : Workspace) : Nat :=
  ws.places.length + 13 * ws.builders.length + 4 * Nesting.limit

/-- A value with all references in it looked up, as deep as `depth` says. Every call refreshes its
arguments, so that it sees what is at their places by then. -/
def refresh (ws : Workspace) (v : Value) : Value := v.lookUp (ws.sight ws.depth [])

/-- What a builder has recorded, with all references in it looked up. -/
def builder? (ws : Workspace) (id : Nat) : Option Query :=
  (ws.builders[id]?).map fun q => q.lookUp fun part => ws.sight ws.depth [(id, part)]

/-- The namespaces that a recording unit has been compiled for, in order. -/
def seen (ws : Workspace) (mark : Nat) : List Value :=
  (ws.visits.filter (·.1 == mark)).map fun visit => ws.refresh visit.2

/-! ## Places -/

/-- Is a value known without a place? Constants are, and so is what has a mark of its own. -/
def isPlaceless : Value → Bool
  | .none | .bool _ | .member _ | .tuple [] | .object .. | .unseen => true
  | .comparison .. | .combination .. | .query .. => true
  | .recorder .. | .answering .. | .scoped .. | .giving .. => true
  | _ => false

/-- A value with marks for what can be met again with it, and the next free mark. What is put at a
place is settled first. -/
def settle (next : Nat) : Value → Value × Nat
  | .message m => (.message (m.settle next).1, (m.settle next).2)
  | v => (v, next)

/-- Gives a value a place, unless it has one or `isPlaceless`. -/
def place (ws : Workspace) (v : Value) : Value × Workspace :=
  if isPlaceless v then (v, ws)
  else
    let (v, marks) := settle ws.marks v
    (.object ws.places.length fun _ => v, { ws with places := ws.places ++ [v], marks })

/-- Sets the item of a list at a position, which counts from the end if it is negative. -/
def setItem (items : List Value) (position : Int) (value : Value) :
    Except Failure (List Value) :=
  let i := if position < 0 then items.length + position else position
  if i < 0 ∨ items.length ≤ i then .error (.outOfRange "list assignment")
  else .ok (items.set i.toNat value)

/-- Sets the value of a key of a mapping, or the item of a list at a position. -/
def put (ws : Workspace) (target key value : Value) : Except Failure Workspace :=
  match target with
  | .object number look =>
      match (look ()).content with
      | .mapping entries => do
          -- Nothing is written if the key is refused.
          key.checkHashable
          let entries := Entries.set key value entries
          return { ws with places := ws.places.set number (.mapping entries) }
      | .list items =>
          match key.asInt? with
          | some position => do
              let items ← setItem items position value
              return { ws with places := ws.places.set number (.list items) }
          | none => .error (.badPosition "list" key.typeName)
      | v => .error (.notAssignable v.typeName)
  | v => .error (.notAssignable v.typeName)

/-- Adds an item at the end of a list. -/
def append (ws : Workspace) (target value : Value) : Except Failure Workspace :=
  match target.place?, target.content with
  | some number, .list items =>
      .ok { ws with places := ws.places.set number (.list (items ++ [value])) }
  | _, v => .error (.noAttribute v.typeName "append")

/-! ## Builders -/

/-- A new builder. -/
def newBuilder (ws : Workspace) (config : Value) : Nat × Workspace :=
  (ws.builders.length, { ws with builders := ws.builders ++ [Query.new config] })

/-- The workspace after some events: visits are kept for `seen`, log records are not. -/
def absorb (ws : Workspace) (events : List Event) : Workspace :=
  { ws with visits := ws.visits ++ events.filterMap fun
      | .visited mark scope => some (mark, scope)
      | .logged _ => none }

/-- The failure to find a builder: there is nothing that could be called. -/
def noBuilder (name : String) : Failure := .noAttribute "NoneType" name

/-- A call on a builder. -/
def call (ws : Workspace) (id : Nat) (c : Query.Call) : Traced Unit × Workspace :=
  match ws.builder? id with
  | some q =>
      let effect := q.apply c
      (effect.outcome,
        { ws with builders := ws.builders.set id effect.state }.absorb effect.outcome.events)
  | none => (.fail (noBuilder "call"), ws)

/-- Compiles a builder. -/
def compile (ws : Workspace) (id : Nat) (scope : Value) :
    Traced (QueryMessage Value) × Workspace :=
  match ws.builder? id with
  | some q =>
      let compiled := q.compile scope
      (compiled, ws.absorb compiled.events)
  | none => (.fail (noBuilder "compile"), ws)

/-- Compiles a builder to a request. -/
def request (ws : Workspace) (id : Nat) (scope projectId : Value) :
    Traced (RequestMessage Value) × Workspace :=
  match ws.builder? id with
  | some q =>
      let compiled := q.request scope projectId
      (compiled, ws.absorb compiled.events)
  | none => (.fail (noBuilder "to_request"), ws)

/-- A builder of its own with the same recorded state. What has been recorded is shared, the lists
that record it are not. -/
def copy (ws : Workspace) (id : Nat) : Nat × Workspace :=
  -- The recorded references are the same, so a mapping that is written to shows in both.
  (ws.builders.length, { ws with builders := ws.builders ++ (ws.builders[id]?).toList })

/-- A compilation leaves builders and places alone. -/
@[simp] theorem compile_builders (ws : Workspace) (id : Nat) (scope : Value) :
    (ws.compile id scope).2.builders = ws.builders ∧
      (ws.compile id scope).2.places = ws.places := by
  unfold compile
  split <;> simp [absorb]

/-- So does a compilation to a request. -/
@[simp] theorem request_builders (ws : Workspace) (id : Nat) (scope projectId : Value) :
    (ws.request id scope projectId).2.builders = ws.builders ∧
      (ws.request id scope projectId).2.places = ws.places := by
  unfold request
  split <;> simp [absorb]

end Workspace

end EntityQuery
