import EntityQuery.Value.Describe

/-!
# Traced computations

Compiling leaves traces: a log record for every query that is compiled, and a visit to every
unit that records the namespaces it is compiled for. They are left also by a compilation that
fails afterwards, so a computation here is its list of events together with its result.

* `Traced.bind` runs one computation after another: the second one runs only if the first one
  has a result, and its events come after.
* `Traced.lift` is a computation without events.
-/

namespace EntityQuery

/-- What is logged about a query when its compilation starts. -/
structure LogRecord where
  kinds : Nat
  filters : Nat
  orders : Nat
  groups : Nat
  /-- The description of the namespace that the query is compiled for. -/
  scope : String

/-- The text of a log record. -/
def LogRecord.text (r : LogRecord) : String :=
  "DEBUG cqrs_ddd.datastore.query: Compiling query: kinds=" ++ Decimal.write r.kinds ++
    " filters=" ++ Decimal.write r.filters ++ " orders=" ++ Decimal.write r.orders ++
    " groups=" ++ Decimal.write r.groups ++ " namespace=" ++ r.scope

/-- Something that happens during a compilation. -/
inductive Event where
  /-- A recording unit is compiled for a namespace. -/
  | visited (mark : Nat) (scope : Value)
  /-- A record is logged. -/
  | logged (record : LogRecord)

/-- A computation: its events in order, and its result or failure. Events before a failure are kept,
since a handler has seen them by then. -/
structure Traced (α : Type) where
  events : List Event
  result : Except Failure α

namespace Traced

variable {α β γ : Type}

/-- A computation without events that succeeds. -/
def pure (a : α) : Traced α := ⟨[], .ok a⟩

/-- One computation after another. After a failure the second one never starts. -/
def bind (x : Traced α) (f : α → Traced β) : Traced β :=
  match x.result with
  | .ok a => ⟨x.events ++ (f a).events, (f a).result⟩
  | .error e => ⟨x.events, .error e⟩

/-- A computation without events. -/
def lift (result : Except Failure α) : Traced α := ⟨[], result⟩

/-- A failure without events. -/
def fail (e : Failure) : Traced α := ⟨[], .error e⟩

/-- A single event. -/
def emit (e : Event) : Traced Unit := ⟨[e], .ok ()⟩

instance : Monad Traced where
  pure := pure
  bind := bind

instance : MonadLift (Except Failure) Traced where
  monadLift := lift

@[simp] theorem pure_result (a : α) : (Pure.pure a : Traced α).result = .ok a := rfl

/-- After a success come the events of both. -/
theorem bind_of_ok {x : Traced α} {a : α} (h : x.result = .ok a) (f : α → Traced β) :
    (x >>= f) = ⟨x.events ++ (f a).events, (f a).result⟩ := by
  simp [Bind.bind, bind, h]

/-- After a failure comes nothing. -/
theorem bind_of_error {x : Traced α} {e : Failure} (h : x.result = .error e)
    (f : α → Traced β) : (x >>= f) = ⟨x.events, .error e⟩ := by
  simp [Bind.bind, bind, h]

/-- A computation succeeds if its parts do. -/
theorem bind_result_eq_ok {x : Traced α} {f : α → Traced β} {b : β} :
    (x >>= f).result = .ok b ↔ ∃ a, x.result = .ok a ∧ (f a).result = .ok b := by
  cases h : x.result with
  | ok a => simp [bind_of_ok h]
  | error e => simp [bind_of_error h]

instance : LawfulMonad Traced := LawfulMonad.mk' Traced
  (fun ⟨events, result⟩ => by
    cases result <;> simp [Functor.map, bind, pure])
  (fun a f => by simp [Bind.bind, Pure.pure, bind, pure])
  (fun x f g => by
    cases h : x.result with
    | error e => rw [bind_of_error h, bind_of_error h, bind_of_error rfl]
    | ok a =>
      rw [bind_of_ok h, bind_of_ok h]
      cases h' : (f a).result with
      | error e => rw [bind_of_error h', bind_of_error rfl]
      | ok b => rw [bind_of_ok h', bind_of_ok rfl]; simp)

end Traced

end EntityQuery
