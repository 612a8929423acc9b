import EntityQuery.Workspace

/-!
# Runs of a workspace

A caller works with a workspace step after step: values get a place, lists and mappings are
changed, and builders are made, copied, called and compiled. Whatever a step uses is looked at when
it is used.

* `Workspace.Step` is a step and `Workspace.run` a run of them. A step that fails does not end it.
* `Workspace.step_places` says what a step can do to the places: it writes to one, adds one at the
  end, or leaves them alone. `run_places_of_not_mem` is what follows for a run: a place that no
  step writes to keeps what is there.
* `Workspace.Standing` tells whether a value has a place, and whether anything is there.
* `Workspace.Direct` is kept by every run: what is at a place has no other place.
-/

namespace EntityQuery

/-- A call with its arguments changed. -/
def Query.Call.map (f : Value → Value) : Call → Call
  | .keysOnly => .keysOnly
  | .properties names => .properties (names.map f)
  | .kindOf kind => .kindOf (f kind)
  | .filterBy unit => .filterBy (f unit)
  | .orderBy order => .orderBy (f order)
  | .groupBy group => .groupBy (f group)
  | .fromCursor cursor => .fromCursor (f cursor)
  | .limit v => .limit (f v)
  | .offset v => .offset (f v)
  | .clearOffset => .clearOffset

namespace Workspace

/-- A step of a caller. -/
inductive Step where
  /-- Gives a value a place. -/
  | place (v : Value)
  /-- Sets the value of a key of a mapping, or an item of a list. -/
  | put (target key value : Value)
  /-- Adds an item to a list. -/
  | append (target value : Value)
  | newBuilder (config : Value)
  | copy (id : Nat)
  | call (id : Nat) (c : Query.Call)
  | compile (id : Nat) (scope : Value)
  | request (id : Nat) (scope projectId : Value)

/-- The workspace after a step. -/
def step (ws : Workspace) : Step → Workspace
  | .place v => (ws.place (ws.refresh v)).2
  | .put target key value =>
      (ws.put (ws.refresh target) (ws.refresh key) (ws.refresh value)).toOption.getD ws
  | .append target value => (ws.append (ws.refresh target) (ws.refresh value)).toOption.getD ws
  | .newBuilder config => (ws.newBuilder (ws.refresh config)).2
  | .copy id => (ws.copy id).2
  | .call id c => (ws.call id (c.map ws.refresh)).2
  | .compile id scope => (ws.compile id (ws.refresh scope)).2
  | .request id scope projectId => (ws.request id (ws.refresh scope) (ws.refresh projectId)).2

/-- The workspace after some steps. -/
def run (ws : Workspace) (steps : List Step) : Workspace := steps.foldl step ws

@[simp] theorem run_nil (ws : Workspace) : ws.run [] = ws := rfl

@[simp] theorem run_cons (ws : Workspace) (s : Step) (steps : List Step) :
    ws.run (s :: steps) = (ws.step s).run steps := rfl

/-- The place that a step writes to, if it succeeds: the next one for what is put down, and that of
its target for what is set or added. -/
def writes (ws : Workspace) : Step → Option Nat
  | .place _ => some ws.places.length
  | .put target .. | .append target _ => target.place?
  | _ => none

/-- The places that some steps write to. -/
def written (ws : Workspace) : List Step → List Nat
  | [] => []
  | s :: steps => (ws.writes s).toList ++ (ws.step s).written steps

/-- What is at a place has no other place. `Workspace.settle` sees to it, and it makes one look at a
place enough to see what is there. -/
def Direct (ws : Workspace) : Prop := ∀ v ∈ ws.places, v.place? = none

/-- What shows of a value: what is at its place, or the value itself. One level is enough by
`Direct`. -/
def shown (ws : Workspace) : Value → Value
  | .object number look => (ws.places[number]?).getD (look ())
  | v => v

theorem shown_of_place?_eq_none (ws : Workspace) {v : Value} (h : v.place? = none) :
    ws.shown v = v := by
  cases v <;> first | rfl | cases h

/-- Where a value stands in a workspace: it has no place, or one where nothing is, or one where
something is. Most lemmas on `lookUp` are by these three cases. -/
inductive Standing (ws : Workspace) : Value → Prop where
  | free {v : Value} (placeless : v.place? = none) : Standing ws v
  | lost {number : Nat} {look : Unit → Value} (missing : ws.places[number]? = none) :
      Standing ws (.object number look)
  | kept {number : Nat} {look : Unit → Value} {w : Value} (found : ws.places[number]? = some w) :
      Standing ws (.object number look)

theorem standing (ws : Workspace) (v : Value) : ws.Standing v := by
  cases v with
  | object number look =>
      cases found : ws.places[number]? with
      | none => exact .lost found
      | some w => exact .kept found
  | _ => exact .free rfl

theorem lookUp_object (ws : Workspace) (number : Nat) (look : Unit → Value) (steps : Nat)
    (way : List (Nat × QueryPart)) :
    (Value.object number look).lookUp (ws.sight (steps + 1) way) =
      .object number fun _ =>
        match ws.places[number]? with
        | some w => w.lookUp (ws.sight steps way)
        | none => look () := rfl

/-- `lookUp` on a place where something is: the same place, with what is there looked up one step
further down. -/
theorem lookUp_object_of_some {ws : Workspace} {number : Nat} {w : Value}
    (found : ws.places[number]? = some w) (look : Unit → Value) (steps : Nat)
    (way : List (Nat × QueryPart)) :
    (Value.object number look).lookUp (ws.sight (steps + 1) way) =
      .object number fun _ => w.lookUp (ws.sight steps way) := by
  rw [lookUp_object, found]

/-- Where there is no place, there is nothing to be looked up. -/
theorem lookUp_object_of_none {ws : Workspace} {number : Nat} (none : ws.places[number]? = none)
    (look : Unit → Value) (steps : Nat) (way : List (Nat × QueryPart)) :
    (Value.object number look).lookUp (ws.sight (steps + 1) way) = .object number look := by
  rw [lookUp_object, none]

/-- A builder that is looked up is a builder, if only one that is too deep to be seen, which shows
as `unseen`. -/
theorem lookUp_query (ws : Workspace) (steps : Nat) (way : List (Nat × QueryPart)) (id : Nat)
    (state : Query) :
    (Value.query id state).lookUp (ws.sight steps way) = .unseen ∨
      ∃ q, (Value.query id state).lookUp (ws.sight steps way) = .query id q := by
  cases steps with
  | zero => exact .inl rfl
  | succ steps =>
      simp only [Value.lookUp, sight]
      cases ws.builders[id]? with
      | none => exact .inr ⟨_, rfl⟩
      | some q => exact .inr ⟨_, rfl⟩

/-- A value keeps its place when references in it are looked up. -/
@[simp] theorem lookUp_place? (ws : Workspace) (steps : Nat) (way : List (Nat × QueryPart))
    (v : Value) : (v.lookUp (ws.sight steps way)).place? = v.place? := by
  cases v with
  | query id state => rcases ws.lookUp_query steps way id state with h | ⟨q, h⟩ <;> rw [h] <;> rfl
  | object number look => cases steps <;> rfl
  | _ => rfl

/-! ## Steps -/

theorem settle_place? {v : Value} (h : isPlaceless v = false) (next : Nat) :
    (settle next v).1.place? = none := by
  cases v <;> first | rfl | cases h

/-- What is set stands at the place of the target. -/
theorem put_places {ws ws' : Workspace} {target key value : Value}
    (put : ws.put target key value = .ok ws') :
    ∃ n w, target.place? = some n ∧ w.place? = none ∧ ws'.places = ws.places.set n w := by
  unfold Workspace.put at put
  cases target with
  | object number look =>
      dsimp only at put
      split at put
      · cases hashable : key.checkHashable with
        | error e => simp [hashable, bind, Except.bind] at put
        | ok _ =>
            simp only [hashable, bind, Except.bind] at put
            cases put
            exact ⟨number, _, rfl, rfl, rfl⟩
      · split at put
        · next items _ _ position _ =>
            cases set : setItem items position value with
            | error e => simp [set, bind, Except.bind] at put
            | ok items' =>
                simp only [set, bind, Except.bind] at put
                cases put
                exact ⟨number, _, rfl, rfl, rfl⟩
        · cases put
      · cases put
  | _ => cases put

theorem append_places {ws ws' : Workspace} {target value : Value}
    (append : ws.append target value = .ok ws') :
    ∃ n w, target.place? = some n ∧ w.place? = none ∧ ws'.places = ws.places.set n w := by
  unfold Workspace.append at append
  split at append
  · next number items place _ =>
      cases append
      exact ⟨number, _, place, rfl, rfl⟩
  · cases append

theorem call_places (ws : Workspace) (id : Nat) (c : Query.Call) :
    (ws.call id c).2.places = ws.places := by
  unfold call
  split <;> rfl

/-- What a step can do to the places: nothing, write a value without a place to the one that it
`writes`, or put one down at the end. Every invariant of places below is read off this. -/
theorem step_places (ws : Workspace) (s : Step) :
    (ws.step s).places = ws.places ∨ ∃ w : Value, w.place? = none ∧
      ((∃ n, ws.writes s = some n ∧ (ws.step s).places = ws.places.set n w) ∨
        ws.writes s = some ws.places.length ∧ (ws.step s).places = ws.places ++ [w]) := by
  cases s with
  | place v =>
      cases placeless : isPlaceless (ws.refresh v) with
      | true =>
          left
          rw [step, place, if_pos placeless]
      | false =>
          refine .inr ⟨_, settle_place? placeless ws.marks, .inr ⟨rfl, ?_⟩⟩
          simp [step, place, placeless]
  | put target key value =>
      rw [step]
      cases put : ws.put (ws.refresh target) (ws.refresh key) (ws.refresh value) with
      -- A step that fails leaves the workspace as it was.
      | error e => exact .inl rfl
      | ok ws' =>
          obtain ⟨n, w, at_, direct, places⟩ := put_places put
          rw [refresh, lookUp_place?] at at_
          exact .inr ⟨w, direct, .inl ⟨n, at_, places⟩⟩
  | append target value =>
      rw [step]
      cases append : ws.append (ws.refresh target) (ws.refresh value) with
      | error e => exact .inl rfl
      | ok ws' =>
          obtain ⟨n, w, at_, direct, places⟩ := append_places append
          rw [refresh, lookUp_place?] at at_
          exact .inr ⟨w, direct, .inl ⟨n, at_, places⟩⟩
  | newBuilder config => exact .inl rfl
  | copy id => exact .inl rfl
  | call id c => exact .inl (ws.call_places id _)
  | compile id scope => exact .inl (ws.compile_builders id _).2
  | request id scope projectId => exact .inl (ws.request_builders id _ _).2

/-- So a step keeps what is at any other place, -/
theorem step_places_of_not_written {ws : Workspace} {s : Step} {n : Nat}
    (untouched : ws.writes s ≠ some n) : (ws.step s).places[n]? = ws.places[n]? := by
  rcases ws.step_places s with same | ⟨w, -, ⟨m, writes, places⟩ | ⟨writes, places⟩⟩
  · rw [same]
  · rw [places, List.getElem?_set_ne]
    rintro rfl
    exact untouched writes
  · have other : n ≠ ws.places.length := by
      rintro rfl
      exact untouched writes
    rw [places, List.getElem?_append]
    split
    · rfl
    · rw [List.getElem?_eq_none (by simp; omega), List.getElem?_eq_none (by omega)]

theorem Direct.step {ws : Workspace} (direct : ws.Direct) (s : Step) : (ws.step s).Direct := by
  rcases ws.step_places s with same | ⟨w, placeless, ⟨m, -, places⟩ | ⟨-, places⟩⟩
  · rwa [Direct, same]
  · intro v hv
    rw [places] at hv
    rcases List.mem_or_eq_of_mem_set hv with old | rfl
    · exact direct v old
    · exact placeless
  · intro v hv
    rw [places, List.mem_append, List.mem_singleton] at hv
    rcases hv with old | rfl
    · exact direct v old
    · exact placeless

/-! ## Runs -/

/-- and a run keeps what is at a place that none of its steps writes to, by induction on the
steps. -/
theorem run_places_of_not_mem {ws : Workspace} {steps : List Step} {n : Nat}
    (untouched : n ∉ ws.written steps) : (ws.run steps).places[n]? = ws.places[n]? := by
  induction steps generalizing ws with
  | nil => rfl
  | cons s rest ih =>
      rw [written, List.mem_append, Option.mem_toList, not_or] at untouched
      rw [run_cons, ih untouched.2, step_places_of_not_written untouched.1]

theorem Direct.run {ws : Workspace} (direct : ws.Direct) (steps : List Step) :
    (ws.run steps).Direct := by
  induction steps generalizing ws with
  | nil => exact direct
  | cons s rest ih => exact ih (direct.step s)

theorem direct_empty : empty.Direct := fun _ h => by cases h

end Workspace

end EntityQuery
