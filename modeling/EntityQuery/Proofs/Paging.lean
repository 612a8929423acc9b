import EntityQuery.Proofs.Acceptance
import EntityQuery.Proofs.RunFields
import EntityQuery.Proofs.Steps

/-!
# Strict builders never send a negative page

A strict builder checks a limit or an offset when it is given. What it sends is read much later,
possibly from a copy, after other calls, and through the looks that have been taken since. The
invariant is that the builder holds a page setting that is nothing or a number not below zero, and
it is about what shows of the setting at first glance.

* `Superficial` properties of a value do not depend on how far down the value is looked at.
* `Workspace.PagesKept` is the invariant of a builder. `Workspace.AllPagesKept.step` is its step for
  all builders and `Workspace.AllPagesKept.run` its run.
* `Workspace.page_of_strict` is what strict builders do with a page setting, sent or refused, and
  what other builders do.
-/

namespace EntityQuery

/-! ## What shows at first glance -/

/-- A property that shows at first glance: it is that of `shown`, and `lookUp` does not change it.
Truth, numbers and texts are of this kind, and it is all that a check of a page setting looks at. -/
structure Superficial {α : Type} (f : Value → α) : Prop where
  object : ∀ number look, f (.object number look) = f (look ())
  lookUp : ∀ (ws : Workspace) steps way (v : Value), v.place? = none →
    f (v.lookUp (ws.sight steps way)) = f v

theorem superficial_truthy : Superficial Value.truthy where
  object _ _ := rfl
  lookUp ws steps way v direct := by
    cases v with
    | object => cases direct
    | query id state => rcases ws.lookUp_query steps way id state with h | ⟨q, h⟩ <;> rw [h] <;> rfl
    | list items => cases items <;> rfl
    | tuple items => cases items <;> rfl
    | mapping entries => cases entries <;> rfl
    | _ => rfl

theorem superficial_isPage : Superficial Value.IsPage where
  object _ _ := rfl
  lookUp ws steps way v direct := by
    cases v with
    | object => cases direct
    | query id state => rcases ws.lookUp_query steps way id state with h | ⟨q, h⟩ <;> rw [h] <;> rfl
    | _ => rfl

/-- Whether a configuration is strict, if the value is one. -/
def Value.strict? (v : Value) : Option Bool :=
  match v.content with
  | .config _ strict => some strict.truthy
  | _ => Option.none

/-- Whether a configuration is strict that is given itself, by what shows of its setting. -/
def Workspace.strictHere? (ws : Workspace) : Value → Option Bool
  | .config _ strict => some (ws.shown strict).truthy
  | _ => none

/-- Whether a configuration is strict, by what shows of its setting. Both the configuration and the
setting in it may be at places, so this looks at two of them. -/
def Workspace.strict? (ws : Workspace) : Value → Option Bool
  | .object number look =>
      match ws.places[number]? with
      | some v => ws.strictHere? v
      | none => (look ()).strict?
  | v => ws.strictHere? v

section

variable {ws ws' : Workspace} (direct : ws.Direct) (places : ws'.places = ws.places)

include direct

section

variable {α : Type} {f : Value → α} (superficial : Superficial f)

include superficial

include places in
/-- From one step down on, it does not matter how far a value is looked at: `f` of what is seen is
`f` of what is `shown`. -/
theorem Superficial.lookUp_eq (steps : Nat) (way : List (Nat × QueryPart)) (v : Value) :
    f (v.lookUp (ws'.sight (steps + 1) way)) = f (ws.shown v) := by
  cases ws'.standing v with
  | free placeless =>
      rw [superficial.lookUp _ _ _ v placeless, ws.shown_of_place?_eq_none placeless]
  | lost missing =>
      rw [Workspace.lookUp_object_of_none missing, superficial.object, Workspace.shown, ← places,
        missing]
      rfl
  | @kept number look w found =>
      have atPlace : ws.places[number]? = some w := places ▸ found
      rw [Workspace.lookUp_object_of_some found, superficial.object, Workspace.shown, atPlace]
      exact superficial.lookUp _ _ _ w (direct w (List.mem_of_getElem? atPlace))

theorem Superficial.shown_lookUp (steps : Nat) (way : List (Nat × QueryPart)) (v : Value) :
    f (ws.shown (v.lookUp (ws.sight (steps + 1) way))) = f (ws.shown v) := by
  rw [← superficial.lookUp_eq direct rfl steps way v]
  cases ws.standing v with
  | free placeless =>
      rw [ws.shown_of_place?_eq_none]
      rwa [Workspace.lookUp_place?]
  | lost missing =>
      rw [Workspace.lookUp_object_of_none missing, superficial.object, Workspace.shown, missing]
      rfl
  | @kept number look w found =>
      rw [Workspace.lookUp_object_of_some found, superficial.object, Workspace.shown, found]
      exact (superficial.lookUp _ _ _ w (direct w (List.mem_of_getElem? found))).symm

end

include places in
theorem strict?_lookUp_of_place?_eq_none {v : Value} (h : v.place? = none) (steps : Nat)
    (way : List (Nat × QueryPart)) :
    (v.lookUp (ws'.sight (steps + 1) way)).strict? = ws.strictHere? v := by
  cases v with
  | object => cases h
  | query id state =>
      rcases ws'.lookUp_query (steps + 1) way id state with h | ⟨q, h⟩ <;> rw [h] <;> rfl
  | config dflt strict =>
      exact congrArg some (superficial_truthy.lookUp_eq direct places steps way strict)
  | _ => rfl

include places in
/-- From two steps down on, `strict?` does not change either: a setting is inside of a
configuration, which may be at a place of its own. -/
theorem strict?_lookUp_eq (steps : Nat) (way : List (Nat × QueryPart)) (v : Value) :
    (v.lookUp (ws'.sight (steps + 2) way)).strict? = ws.strict? v := by
  cases ws'.standing v with
  | free placeless =>
      rw [strict?_lookUp_of_place?_eq_none direct places placeless]
      cases v <;> first | rfl | cases placeless
  | lost missing =>
      rw [Workspace.lookUp_object_of_none missing, Workspace.strict?, ← places, missing]
      rfl
  | @kept number look w found =>
      have atPlace : ws.places[number]? = some w := places ▸ found
      rw [Workspace.lookUp_object_of_some found, Workspace.strict?, atPlace]
      exact strict?_lookUp_of_place?_eq_none direct places
        (direct w (List.mem_of_getElem? atPlace)) steps way

theorem strict?_shown_lookUp (steps : Nat) (way : List (Nat × QueryPart)) (v : Value) :
    ws.strict? (v.lookUp (ws.sight (steps + 1) way)) = ws.strict? v := by
  cases v with
  | object number look =>
      cases found : ws.places[number]? with
      | none => rw [Workspace.lookUp_object_of_none found]
      | some w =>
          rw [Workspace.lookUp_object_of_some found, Workspace.strict?, Workspace.strict?, found]
  | query id state =>
      rcases ws.lookUp_query (steps + 1) way id state with h | ⟨q, h⟩ <;> rw [h] <;> rfl
  | config dflt strict =>
      exact congrArg some (superficial_truthy.shown_lookUp direct steps way strict)
  | _ => rfl

end

/-! ## The pages of a builder -/

namespace Query

/-- If the builder is strict, its limit and its offset are settings that a strict one can hold
(`IsPage`). It is the invariant of this module; a builder that is not strict holds anything. -/
def HoldsPages (q : Query) : Prop :=
  q.config.strict? = some true → q.limit.IsPage ∧ q.offset.IsPage

theorem content_of_strict? {config : Value} {b : Bool} (h : config.strict? = some b) :
    ∃ dflt strict, config.content = .config dflt strict ∧ strict.truthy = b := by
  unfold Value.strict? at h
  split at h
  next dflt strict configured => exact ⟨dflt, strict, configured, Option.some.inj h⟩
  next => cases h

theorem isPage_of_takesPage {strict v : Value} (isStrict : strict.truthy = true)
    (taken : takesPage strict v = true) : v.IsPage := by
  rw [takesPage, isStrict] at taken
  simpa [Value.IsPage] using Or.inr taken

/-- A call keeps `HoldsPages`, by cases on the call: only `limit` and `offset` put anything there,
and `checkPage` has let it pass. -/
theorem HoldsPages.apply {q : Query} (h : q.HoldsPages) (call : Call) :
    (q.apply call).state.HoldsPages := by
  rw [apply_state]
  intro isStrict
  obtain ⟨dflt, strict, configured, truthy⟩ := content_of_strict? isStrict
  obtain ⟨limit, offset⟩ := h isStrict
  dsimp only
  rw [Call.limit?_eq configured, Call.offset?_eq configured]
  cases call with
  | limit v =>
      refine ⟨?_, offset⟩
      cases taken : takesPage strict v with
      | true => simpa [Call.takenLimit?, taken] using isPage_of_takesPage truthy taken
      | false => simpa [Call.takenLimit?, taken] using limit
  | offset v =>
      refine ⟨limit, ?_⟩
      cases taken : takesPage strict v with
      | true => simpa [Call.takenOffset?, taken] using isPage_of_takesPage truthy taken
      | false => simpa [Call.takenOffset?, taken] using offset
  | clearOffset => exact ⟨limit, .inr ⟨rfl, rfl⟩⟩
  | _ => exact ⟨limit, offset⟩

theorem holdsPages_new (config : Value) : (new config).HoldsPages :=
  fun _ => ⟨.inl rfl, .inr ⟨rfl, rfl⟩⟩

/-- The call that gives a setting of the page. -/
def Call.page : PageField → Value → Call
  | .limit, v => .limit v
  | .offset, v => .offset v

/-- A builder with another setting of the page. -/
def withPage (q : Query) : PageField → Value → Query
  | .limit, limit => { q with limit }
  | .offset, offset => { q with offset }

/-- A setting of the page is recorded as it is given where `takesPage`, and refused with
`checkPage_eq` otherwise. The state is not touched then. -/
theorem apply_page {q : Query} {dflt strict : Value}
    (configured : q.config.content = .config dflt strict) (field : PageField) (v : Value) :
    q.apply (.page field v) =
      if takesPage strict v then .done (q.withPage field v)
      else if v.isNumber then .failed q (refusal field v)
      else .failed q (.unordered v.typeName) := by
  have checked := checkPage_eq configured field v
  cases field <;> simp only [Call.page, apply, checked, withPage] <;>
    cases takesPage strict v <;> cases v.isNumber <;> rfl

/-- The page of a compiled query is what `integer?` reads of the builder's settings. It need not be
the setting itself, which may be a float or a text. -/
theorem page_of_compile {q : Query} {scope : Value} {m : QueryMessage Value}
    (compiled : (q.compile scope).result = .ok m) :
    q.limit.orNothing Value.integer? = some m.limit ∧ q.offset.integer? = some m.offset := by
  rw [compile, compileState_result] at compiled
  obtain ⟨n, -, compiled⟩ := bind_eq_ok_iff.mp compiled
  obtain ⟨shown, -, compiled⟩ := bind_eq_ok_iff.mp compiled
  obtain ⟨names, -, compiled⟩ := bind_eq_ok_iff.mp compiled
  obtain ⟨fs, -, compiled⟩ := bind_eq_ok_iff.mp compiled
  obtain ⟨-, -, -, -, -, -, limit, offset⟩ := (QueryMessage.make_eq_ok_iff ..).mp compiled
  exact ⟨limit, offset⟩

theorem compile_of_request {q : Query} {scope projectId : Value} {m : RequestMessage Value}
    (requested : (q.request scope projectId).result = .ok m) :
    ∃ n, (q.compile n).result = .ok m.query := by
  obtain ⟨n, -, requested⟩ := Traced.bind_result_eq_ok.mp requested
  obtain ⟨partition, -, requested⟩ := Traced.bind_result_eq_ok.mp requested
  obtain ⟨query, compiled, requested⟩ := Traced.bind_result_eq_ok.mp requested
  cases requested
  exact ⟨n, compiled⟩

/-- The page of a strict builder is never negative, since `IsPage` is about what `integer?`
reads. -/
theorem HoldsPages.nonneg {q : Query} (h : q.HoldsPages) (isStrict : q.config.strict? = some true)
    {scope : Value} {m : QueryMessage Value} (compiled : (q.compile scope).result = .ok m) :
    0 ≤ m.offset ∧ ∀ n, m.limit = some n → 0 ≤ n := by
  obtain ⟨limit, offset⟩ := page_of_compile compiled
  obtain ⟨limitKept, offsetKept⟩ := h isStrict
  refine ⟨offsetKept.nonneg offset, fun n isSome => ?_⟩
  rw [isSome, Value.orNothing] at limit
  split at limit
  · cases limit
  · obtain ⟨i, read, same⟩ := Option.map_eq_some_iff.mp limit
    cases same
    exact limitKept.nonneg read

end Query

/-! ## The pages of all builders -/

namespace Workspace

/-- A step on builders only: no place is added or written to. -/
def Step.OnBuilders : Step → Prop
  | .place _ | .put .. | .append .. => False
  | _ => True

theorem Step.OnBuilders.places {s : Step} (h : s.OnBuilders) (ws : Workspace) :
    (ws.step s).places = ws.places := by
  have nothing : ws.writes s = none := by
    cases s <;> first | rfl | exact h.elim
  rcases ws.step_places s with same | ⟨w, -, ⟨n, writes, -⟩ | ⟨writes, -⟩⟩
  · exact same
  · rw [nothing] at writes
    cases writes
  · rw [nothing] at writes
    cases writes

/-- `HoldsPages` of a builder as it shows. What is recorded may be at a place, and what is at that
place at the time of a call is what counts. -/
def PagesKept (ws : Workspace) (q : Query) : Prop :=
  ws.strict? q.config = some true → (ws.shown q.limit).IsPage ∧ (ws.shown q.offset).IsPage

theorem shown_congr {ws ws' : Workspace} (places : ws'.places = ws.places) (v : Value) :
    ws'.shown v = ws.shown v := by
  cases v <;> simp only [Workspace.shown, places]

theorem strict?_congr {ws ws' : Workspace} (places : ws'.places = ws.places) (v : Value) :
    ws'.strict? v = ws.strict? v := by
  have strictHere : ∀ v, ws'.strictHere? v = ws.strictHere? v := by
    intro v
    cases v <;> simp only [Workspace.strictHere?, shown_congr places]
  cases v <;> simp only [Workspace.strict?, places, strictHere]

theorem pagesKept_congr {ws ws' : Workspace} (places : ws'.places = ws.places) {q : Query} :
    ws'.PagesKept q ↔ ws.PagesKept q := by
  rw [PagesKept, PagesKept, strict?_congr places, shown_congr places, shown_congr places]

/-- A value that has just been looked at: looking again shows the same. Calls refresh their
arguments, so what they record is `Current`. -/
def Current (ws : Workspace) (v : Value) : Prop :=
  ∃ (u : Value) (steps : Nat) (way : List (Nat × QueryPart)),
    v = u.lookUp (ws.sight (steps + 2) way)

theorem exists_depth_eq (ws : Workspace) : ∃ steps, ws.depth = steps + 2 :=
  ⟨ws.places.length + 13 * ws.builders.length + 1018, by simp [depth, Nesting.limit]⟩

theorem current_lookUp_depth (ws : Workspace) (way : List (Nat × QueryPart)) (u : Value) :
    ws.Current (u.lookUp (ws.sight ws.depth way)) := by
  obtain ⟨steps, depth⟩ := ws.exists_depth_eq
  exact ⟨u, steps, way, by rw [depth]⟩

theorem Current.isPage_shown {ws : Workspace} (direct : ws.Direct) {v : Value}
    (current : ws.Current v) : (ws.shown v).IsPage ↔ v.IsPage := by
  obtain ⟨u, steps, way, rfl⟩ := current
  rw [superficial_isPage.shown_lookUp direct, superficial_isPage.lookUp_eq direct rfl]

theorem Current.strict?_eq {ws : Workspace} (direct : ws.Direct) {v : Value}
    (current : ws.Current v) : ws.strict? v = v.strict? := by
  obtain ⟨u, steps, way, rfl⟩ := current
  rw [strict?_shown_lookUp direct, strict?_lookUp_eq direct rfl]

/-- What is `PagesKept` of the recorded builder is `HoldsPages` of what is seen of it. -/
theorem PagesKept.holdsPages {ws : Workspace} (direct : ws.Direct) {id : Nat} {q seen : Query}
    (found : ws.builders[id]? = some q) (kept : ws.PagesKept q)
    (seenAs : ws.builder? id = some seen) : seen.HoldsPages := by
  rw [builder?, found] at seenAs
  cases seenAs
  obtain ⟨steps, depth⟩ := ws.exists_depth_eq
  intro isStrict
  simp only [QueryState.lookUp, depth] at isStrict ⊢
  rw [strict?_lookUp_eq direct rfl] at isStrict
  rw [superficial_isPage.lookUp_eq direct rfl, superficial_isPage.lookUp_eq direct rfl]
  exact kept isStrict

/-- And back, for a builder whose configuration and settings are `Current`. -/
theorem pagesKept_of_holdsPages {ws : Workspace} (direct : ws.Direct) {q : Query}
    (config : ws.Current q.config) (limit : ws.Current q.limit) (offset : ws.Current q.offset)
    (holds : q.HoldsPages) : ws.PagesKept q := by
  intro isStrict
  rw [config.strict?_eq direct] at isStrict
  rw [limit.isPage_shown direct, offset.isPage_shown direct]
  exact holds isStrict

theorem Current.accepted {ws : Workspace} {v w : Value} (new : ws.Current v) (old : ws.Current w)
    (config : Value) (field : PageField) :
    ws.Current ((Query.Call.accepted? config field v).getD w) := by
  unfold Query.Call.accepted?
  cases Query.checkPage config field v with
  | ok _ => exact new
  | error e => exact old

/-- A call that looks at its arguments keeps what a builder holds. -/
theorem pagesKept_apply {ws : Workspace} (direct : ws.Direct) {q seen : Query} {id : Nat}
    (found : ws.builders[id]? = some q) (kept : ws.PagesKept q)
    (seenAs : ws.builder? id = some seen) (c : Query.Call) :
    ws.PagesKept (seen.apply (c.map ws.refresh)).state := by
  have holds := (kept.holdsPages direct found seenAs).apply (c.map ws.refresh)
  rw [builder?, found] at seenAs
  cases seenAs
  -- Each field has just been looked at, in the builder or as the argument of the call.
  have args : ∀ v, ws.Current (ws.refresh v) := ws.current_lookUp_depth []
  refine pagesKept_of_holdsPages direct ?_ ?_ ?_ holds
  · rw [Query.apply_state]
    exact ws.current_lookUp_depth _ q.config
  · rw [Query.apply_state]
    have old := ws.current_lookUp_depth [(id, .limit)] q.limit
    cases c with
    | limit v => exact (args v).accepted old _ .limit
    | _ => exact old
  · rw [Query.apply_state]
    have old := ws.current_lookUp_depth [(id, .offset)] q.offset
    cases c with
    | offset v => exact (args v).accepted old _ .offset
    | clearOffset => exact ⟨.int 0, 0, [], rfl⟩
    | _ => exact old

theorem pagesKept_new {ws : Workspace} (direct : ws.Direct) (config : Value) :
    ws.PagesKept (Query.new (ws.refresh config)) := by
  refine pagesKept_of_holdsPages direct ?_ ⟨.none, 0, [], rfl⟩ ⟨.int 0, 0, [], rfl⟩
    (Query.holdsPages_new _)
  unfold Query.new
  dsimp only
  split
  · exact ws.current_lookUp_depth [] config
  · exact ⟨Query.defaultConfig, 0, [], rfl⟩

/-- What all builders keep. -/
def AllPagesKept (ws : Workspace) : Prop := ∀ q ∈ ws.builders, ws.PagesKept q

/-- A step on builders keeps it. Only such steps count: one that writes to a place can change a
setting behind a builder's back. -/
theorem AllPagesKept.step {ws : Workspace} (direct : ws.Direct) (kept : ws.AllPagesKept) {s : Step}
    (onBuilders : s.OnBuilders) : (ws.step s).AllPagesKept := by
  intro q hq
  rw [pagesKept_congr (onBuilders.places ws)]
  cases s with
  | place | put | append => exact onBuilders.elim
  | newBuilder config =>
      rcases List.mem_append.mp hq with old | new
      · exact kept q old
      · obtain rfl := List.mem_singleton.mp new
        exact pagesKept_new direct config
  | copy id =>
      rcases List.mem_append.mp hq with old | new
      · exact kept q old
      · obtain found := Option.mem_toList.mp new
        exact kept q (List.mem_of_getElem? found)
  | call id c =>
      cases seenAs : ws.builder? id with
      | none =>
          rw [Workspace.step, call, seenAs] at hq
          exact kept q hq
      | some seen =>
          rw [Workspace.step, call, seenAs] at hq
          rcases List.mem_or_eq_of_mem_set hq with old | rfl
          · exact kept q old
          -- What is called is what is seen of the builder, and not what it has recorded.
          · cases found : ws.builders[id]? with
            | none => simp [builder?, found] at seenAs
            | some stored =>
                have held := kept stored (List.mem_of_getElem? found)
                exact pagesKept_apply direct found held seenAs c
  | compile id scope => exact kept q ((ws.compile_builders id _).1 ▸ hq)
  | request id scope projectId => exact kept q ((ws.request_builders id _ _).1 ▸ hq)

/-- So does a run of such steps, by induction on the steps. -/
theorem AllPagesKept.run {ws : Workspace} (direct : ws.Direct) (kept : ws.AllPagesKept)
    {steps : List Step} (onBuilders : ∀ s ∈ steps, s.OnBuilders) : (ws.run steps).AllPagesKept := by
  induction steps generalizing ws with
  | nil => exact kept
  | cons s rest ih =>
      obtain ⟨first, others⟩ := List.forall_mem_cons.mp onBuilders
      exact ih (direct.step s) (kept.step direct first) others

/-- What is seen of a builder after a run of steps on builders. -/
theorem holdsPages_run {ws : Workspace} (direct : ws.Direct) (fresh : ws.builders = [])
    {steps : List Step} (onBuilders : ∀ s ∈ steps, s.OnBuilders) {id : Nat} {q : Query}
    (seen : (ws.run steps).builder? id = some q) : q.HoldsPages := by
  have kept : ws.AllPagesKept := by
    intro q hq
    rw [fresh] at hq
    cases hq
  cases found : (ws.run steps).builders[id]? with
  | none => simp [builder?, found] at seen
  | some stored =>
      exact (kept.run direct onBuilders stored (List.mem_of_getElem? found)).holdsPages
        (direct.run steps) found seen

/-- A strict builder never sends a negative page, whatever calls were made on it and on what it is a
copy of. Of all numbers it takes exactly those that are not `isBelowZero`, and a call that fails
changes nothing. A number below zero is refused with a `Rejection` that names the field and quotes
the number, if `writeInteger` can write it; where it cannot, the failure is `tooManyDigits`, raised
while the refusal is worded. -/
theorem page_of_strict {before steps : List Step} (fresh : (empty.run before).builders = [])
    (onBuilders : ∀ s ∈ steps, s.OnBuilders) {id : Nat} {q : Query} {dflt strict : Value}
    (seen : ((empty.run before).run steps).builder? id = some q)
    (configured : q.config.content = .config dflt strict) :
    let ws := (empty.run before).run steps
    (strict.truthy = true →
      (∀ scope m, (ws.compile id scope).1.result = .ok m →
        0 ≤ m.offset ∧ ∀ n, m.limit = some n → 0 ≤ n) ∧
      (∀ scope projectId m, (ws.request id scope projectId).1.result = .ok m →
        0 ≤ m.query.offset ∧ ∀ n, m.query.limit = some n → 0 ≤ n) ∧
      ∀ field v,
        (∀ e, (ws.call id (.page field v)).1.result = .error e →
          (ws.call id (.page field v)).2.builders = ws.builders.set id q) ∧
        (v.isNumber = true → v.isBelowZero = false →
          (ws.call id (.page field v)).1.result = .ok ()) ∧
        (v.isNumber = true → v.isBelowZero = true →
          if v.isWritableNumber then ∃ shown, v.display = .ok shown ∧
            (ws.call id (.page field v)).1.result = .error (.rejected (.negative field shown v))
          else (ws.call id (.page field v)).1.result = .error .tooManyDigits)) ∧
    (strict.truthy = false → ∀ field v,
      (ws.call id (.page field v)).1.result = .ok () ∧
      (ws.call id (.page field v)).2.builders = ws.builders.set id (q.withPage field v)) := by
  intro ws
  have holds : q.HoldsPages := holdsPages_run (direct_empty.run before) fresh onBuilders seen
  have called : ∀ c, ws.call id c = ((q.apply c).outcome,
      { ws with builders := ws.builders.set id (q.apply c).state }.absorb
        (q.apply c).outcome.events) := by
    intro c
    rw [call, seen]
  constructor
  · intro truthy
    have isStrict : q.config.strict? = some true := by
      rw [Value.strict?, configured, ← truthy]
    -- Of a number, only its sign decides; how the refusal turns out is up to its text.
    have answer : ∀ field v, v.isNumber = true → (ws.call id (.page field v)).1.result =
        if v.isBelowZero then .error (Query.refusal field v) else .ok () := by
      intro field v number
      rw [called, Query.apply_page configured, Query.takesPage, truthy, number]
      cases v.isBelowZero <;> rfl
    refine ⟨?_, ?_, fun field v => ⟨?_, ?_, ?_⟩⟩
    · intro scope m compiled
      rw [compile, seen] at compiled
      exact holds.nonneg isStrict compiled
    · intro scope projectId m compiled
      rw [request, seen] at compiled
      obtain ⟨scope', compiled⟩ := Query.compile_of_request compiled
      exact holds.nonneg isStrict compiled
    · intro e failed
      rw [called, Query.apply_page configured] at failed ⊢
      split at failed
      · cases failed
      · next refused =>
          rw [if_neg refused]
          cases v.isNumber <;> rfl
    · intro number above
      rw [answer field v number, above]
      rfl
    · intro number below
      rw [answer field v number, below, Query.refusal]
      -- The refusal has the text of the number in it, so it is there only if that is.
      have text := Value.display_of_isNumber number
      cases writable : v.isWritableNumber with
      | true =>
          rw [writable] at text
          obtain ⟨shown, displayed⟩ := text
          exact ⟨shown, displayed, by rw [displayed]; rfl⟩
      | false =>
          rw [writable] at text
          rw [show v.display = .error .tooManyDigits from text]
          rfl
  · intro falsy field v
    rw [called, Query.apply_page configured, Query.takesPage, falsy]
    exact ⟨rfl, rfl⟩

/-- A strict builder and its copy, each with a page of its own; one call is refused on the way. -/
theorem page_of_strict_copy :
    let strict : Value := .config .none (.bool true)
    let steps : List Step := [.newBuilder strict, .call 0 (.limit (.int 3)), .copy 0,
      .call 1 (.limit (.int (-1))), .call 1 (.offset (.bool true)), .call 0 (.limit (.int 7))]
    let ws := (empty.run []).run steps
    let q : Query := { Query.new strict with limit := .int 3, offset := .bool true }
    ((empty.run []).builders = [] ∧ (∀ s ∈ steps, s.OnBuilders) ∧ ws.builder? 1 = some q ∧
      q.config.content = .config .none (.bool true)) ∧
    (∀ scope m, (ws.compile 1 scope).1.result = .ok m →
      0 ≤ m.offset ∧ ∀ n, m.limit = some n → 0 ≤ n) ∧
    (ws.call 1 (.limit (.int (-1)))).1.result =
      .error (.rejected (.negative .limit "-1" (.int (-1)))) := by
  dsimp only
  have onBuilders : ∀ s ∈ ([.newBuilder (.config .none (.bool true)), .call 0 (.limit (.int 3)),
      .copy 0, .call 1 (.limit (.int (-1))), .call 1 (.offset (.bool true)),
      .call 0 (.limit (.int 7))] : List Step), s.OnBuilders := by
    simp only [List.forall_mem_cons, List.not_mem_nil, false_implies, implies_true, and_true]
    exact ⟨trivial, trivial, trivial, trivial, trivial, trivial⟩
  refine ⟨⟨rfl, onBuilders, rfl, rfl⟩, ?_⟩
  have page := (@page_of_strict [] _ rfl onBuilders 1 _ _ _ rfl rfl).1 rfl
  refine ⟨page.1, ?_⟩
  obtain ⟨shown, displayed, refused⟩ := (page.2.2 .limit (.int (-1))).2.2 rfl rfl
  have text : (Value.int (-1)).display = .ok "-1" := rfl
  rw [text] at displayed
  cases displayed
  exact refused

/-- An integer below zero that is too long is not refused as such. This is stated for all integers
with `isWritable n = false`, so that no proof has to evaluate `Decimal.write` on one. -/
theorem limit_of_long {n : Int} (below : n < 0) (long : Decimal.isWritable n = false) :
    let ws := empty.run [.newBuilder (.config .none (.bool true))]
    ((Value.int n).isNumber = true ∧ (Value.int n).isBelowZero = true) ∧
    (ws.call 0 (.limit (.int n))).1.result = .error .tooManyDigits ∧
    ∀ shown, (ws.call 0 (.limit (.int n))).1.result ≠
      .error (.rejected (.negative .limit shown (.int n))) := by
  intro ws
  have isBelow : (Value.int n).isBelowZero = true := decide_eq_true below
  have text : (Value.int n).display = .error .tooManyDigits := by
    have text := Value.display_of_isNumber (v := .int n) rfl
    rwa [show (Value.int n).isWritableNumber = false from long] at text
  have answer : (ws.call 0 (.limit (.int n))).1.result = .error .tooManyDigits := by
    have applied :=
      Query.apply_page (q := Query.new (.config .none (.bool true))) rfl .limit (.int n)
    rw [Query.takesPage, isBelow, Query.refusal, text] at applied
    exact congrArg (fun done => done.outcome.result) applied
  refine ⟨⟨rfl, isBelow⟩, answer, fun shown => ?_⟩
  rw [answer]
  rintro ⟨⟩

/-- Such is the greatest one that has too many digits. -/
theorem limit_long_not_rejected :
    let v : Value := .int (-Decimal.leastTooLong)
    let ws := empty.run [.newBuilder (.config .none (.bool true))]
    (v.isNumber = true ∧ v.isBelowZero = true) ∧
    (ws.call 0 (.limit v)).1.result = .error .tooManyDigits ∧
    ∀ shown, (ws.call 0 (.limit v)).1.result ≠ .error (.rejected (.negative .limit shown v)) :=
  limit_of_long (Int.neg_neg_of_pos (Int.natCast_pos.mpr Decimal.leastTooLong_pos))
    (Decimal.isWritable_eq_false
      (Nat.le_of_eq ((Int.natAbs_neg _).trans (Int.natAbs_natCast _)).symm))

end Workspace

end EntityQuery
