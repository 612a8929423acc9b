import EntityQuery.Proofs.Encoding
import EntityQuery.Proofs.Steps

/-!
# What a message shares with its caller

A message has mappings of its own, but the values in them are the caller's: lists and mappings at
places, which the caller may go on changing. What is encoded of a message at any later time depends
on those places only.

* `Workspace.Within` is what can be found inside of a value, through the places of a workspace.
* `Sight.SameBody` compares the bodies that two sights show of a value. A body has a level for
  every container, so a sight that is deeper than that shows all of it:
  `Workspace.sameBody_of_samePlaces`.
* `Workspace.bodyOf_run` says that a message is encoded as it was when it was made, until something
  is set in or added to a list or mapping inside of it. The operand that it was made from is not
  inside of it, as `bodyOf_run_operand` shows, but what is nested in the operand is:
  `bodyOf_run_nested`.
-/

namespace EntityQuery

/-! ## The parts of values -/

mutual

/-- The values in the mappings of a filter. -/
def Filter.values : Filter Value → List Value
  | .property m => m.value.map Prod.snd
  | .composite _ filters _ => valuesOfFilters filters
termination_by structural f => f

/-- The values in the mappings of filters. -/
def valuesOfFilters : List (Filter Value) → List Value
  | [] => []
  | f :: rest => f.values ++ valuesOfFilters rest
termination_by structural filters => filters

end

/-- The values in the mappings of a message. -/
def Message.values : Message Value → List Value
  | .propertyFilter m => m.value.map Prod.snd
  | .compositeFilter m => valuesOfFilters m.filters
  | .filter f => f.values
  | .query m => m.filter.elim [] Filter.values
  | .request m => m.query.filter.elim [] Filter.values
  | _ => []

/-- The values that the body of a value is made of, one level down; the keys of a mapping are among
them. -/
def Value.parts : Value → List Value
  | .list items | .tuple items => items
  | .mapping entries => entries.map Prod.fst ++ entries.map Prod.snd
  | .key a b | .order a b | .config a b => [a, b]
  | .group a => [a]
  | .message m => m.values
  | _ => []

/-- A scalar, as keys of mappings usually are. -/
def Value.isScalar : Value → Bool
  | .none | .bool _ | .int _ | .float _ | .text _ | .bytes _ | .member _ => true
  | _ => false

theorem valuesOfFilters_eq (filters : List (Filter Value)) :
    valuesOfFilters filters = filters.flatMap Filter.values := by
  induction filters with
  | nil => rfl
  | cons f rest ih => rw [valuesOfFilters, ih, List.flatMap_cons]

/-- What holds of the values of a filter holds in each of its mappings. -/
theorem Filter.holds_of_values {p : Value → Prop} :
    (f : Filter Value) → (∀ v ∈ f.values, p v) → f.Holds fun value => ∀ e ∈ value, p e.2
  | .property m, each => by
      refine .property fun e he => each e.2 ?_
      rw [Filter.values]
      exact List.mem_map_of_mem he
  | .composite op filters mark, each => by
      refine .composite fun f hf => Filter.holds_of_values f fun v hv => each v ?_
      rw [Filter.values, valuesOfFilters_eq]
      exact List.mem_flatMap_of_mem hf hv

/-- What holds of the values of a message holds in each of its mappings. -/
theorem Message.holds_of_values {p : Value → Prop} {m : Message Value}
    (each : ∀ v ∈ m.values, p v) : m.Holds fun value => ∀ e ∈ value, p e.2 := by
  cases m with
  | propertyFilter m => exact fun e he => each e.2 (List.mem_map_of_mem he)
  | compositeFilter m =>
      intro f hf
      refine f.holds_of_values fun v hv => each v ?_
      rw [Message.values, valuesOfFilters_eq]
      exact List.mem_flatMap_of_mem hf hv
  | filter f => exact f.holds_of_values each
  | query m =>
      intro f hf
      refine f.holds_of_values fun v hv => each v ?_
      rw [Message.values, hf]
      exact hv
  | request m =>
      intro f hf
      refine f.holds_of_values fun v hv => each v ?_
      rw [Message.values, hf]
      exact hv
  | _ => trivial

namespace Workspace

/-- A value is found inside of another one, through `Value.parts` and through the places of a
workspace. -/
inductive Within (ws : Workspace) : Value → Value → Prop where
  | self {v : Value} : Within ws v v
  | part {v p w : Value} (among : p ∈ v.parts) (inside : Within ws p w) : Within ws v w
  | place {number : Nat} {look : Unit → Value} {p w : Value} (found : ws.places[number]? = some p)
      (inside : Within ws p w) : Within ws (.object number look) w

/-- Mappings inside of a value have scalars for keys. A tuple could be a key as well, and what is at
a place in it would show in `bodyKey`. -/
def ScalarKeys (ws : Workspace) (v : Value) : Prop :=
  ∀ entries, ws.Within v (.mapping entries) → ∀ e ∈ entries, (ws.shown e.1).isScalar = true

/-- A workspace holds at the places inside of a value what another one does. Places elsewhere may
differ. -/
def SamePlaces (ws ws' : Workspace) (v : Value) : Prop :=
  ∀ number look, ws.Within v (.object number look) → ws'.places[number]? = ws.places[number]?

end Workspace

/-! ## Bodies in two sights -/

/-- Two sights show the same body of a value, at any position from some depth on. The depth is what
the induction below goes by, as `Nesting.limit` ends it. -/
def Sight.SameBody (s s' : Sight) (depth : Nat) (v : Value) : Prop :=
  ∀ n : Nesting, depth ≤ n.depth → (v.lookUp s').bodyIn n = (v.lookUp s).bodyIn n

section

variable {s s' : Sight} {n : Nesting}

theorem bodyItems_congr {items : List Value} (each : ∀ v ∈ items, s.SameBody s' n.depth v) :
    bodyItems n (lookUpItems s' items) = bodyItems n (lookUpItems s items) := by
  induction items with
  | nil => rfl
  | cons v rest ih =>
      simp only [List.forall_mem_cons] at each
      rw [lookUpItems, lookUpItems, bodyItems, bodyItems, each.1 n (Nat.le_refl _), ih each.2]

theorem bodyEntries_congr {entries encoded : List (Value × Value)}
    (keys : ∀ e ∈ entries, (e.1.lookUp s').bodyKey = (e.1.lookUp s).bodyKey)
    (each : ∀ e ∈ entries, s.SameBody s' n.depth e.2) :
    bodyEntries n encoded (lookUpEntries s' entries) =
      bodyEntries n encoded (lookUpEntries s entries) := by
  induction entries generalizing encoded with
  | nil => rfl
  | cons e rest ih =>
      obtain ⟨k, v⟩ := e
      simp only [List.forall_mem_cons] at keys each
      simp only [lookUpEntries, bodyEntries, keys.1, each.1 n (Nat.le_refl _), ih keys.2 each.2]

theorem bodyMapping_congr {value : List (String × Value)}
    (each : ∀ e ∈ value, s.SameBody s' n.depth e.2) :
    bodyMapping n (lookUpMapping s' value) = bodyMapping n (lookUpMapping s value) := by
  induction value with
  | nil => rfl
  | cons e rest ih =>
      obtain ⟨k, v⟩ := e
      simp only [List.forall_mem_cons] at each
      simp only [lookUpMapping, bodyMapping, each.1 n (Nat.le_refl _), ih each.2]

theorem bodyPropertyFilter_congr {m : PropertyFilter Value}
    (each : ∀ e ∈ m.value, s.SameBody s' n.depth e.2) :
    bodyPropertyFilter n (lookUpPropertyFilter s' m) =
      bodyPropertyFilter n (lookUpPropertyFilter s m) := by
  obtain ⟨property, op, value, mark⟩ := m
  rw [lookUpPropertyFilter, lookUpPropertyFilter, bodyPropertyFilter, bodyPropertyFilter,
    bodyMapping_congr each]
  rfl

theorem bodyFilters_congr {filters : List (Filter Value)}
    (each : ∀ f ∈ filters, bodyFilter n (lookUpFilter s' f) = bodyFilter n (lookUpFilter s f)) :
    bodyFilters n (lookUpFilters s' filters) = bodyFilters n (lookUpFilters s filters) := by
  induction filters with
  | nil => rfl
  | cons f rest ih =>
      simp only [List.forall_mem_cons] at each
      rw [lookUpFilters, lookUpFilters, bodyFilters, bodyFilters, each.1, ih each.2]

/-- A filter has the same body if the values in its mappings have, from its own depth on. By
induction on the filter, which gets deeper as `bodyFilter` does. -/
theorem bodyFilter_congr {depth : Nat} {f : Filter Value}
    (h : f.Holds fun value => ∀ e ∈ value, s.SameBody s' depth e.2) (n : Nesting)
    (deep : depth ≤ n.depth) :
    bodyFilter n (lookUpFilter s' f) = bodyFilter n (lookUpFilter s f) := by
  induction h generalizing n with
  | property mapping =>
      rw [lookUpFilter, lookUpFilter, bodyFilter, bodyFilter, bodyPropertyFilter_congr]
      intro e he n' deep'
      exact mapping e he n' (by simp at deep'; omega)
  | composite _ ih =>
      rw [lookUpFilter, lookUpFilter, bodyFilter, bodyFilter, bodyFilters_congr]
      intro f hf
      exact ih f hf n.deeper (by simp; omega)

theorem bodyQuery_congr {depth : Nat} {m : QueryMessage Value}
    (h : ∀ f ∈ m.filter, f.Holds fun value => ∀ e ∈ value, s.SameBody s' depth e.2)
    (deep : depth ≤ n.depth) :
    bodyQuery n (lookUpQueryMessage s' m) = bodyQuery n (lookUpQueryMessage s m) := by
  obtain ⟨kinds, projections, filter, orders, distinctOn, startCursor, limit, offset⟩ := m
  cases filter with
  | none => rfl
  | some f =>
      have same := bodyFilter_congr (h f rfl) n.deeper (by simp; omega)
      simp only [lookUpQueryMessage, lookUpFilter?, bodyQuery, bodyFilter?, same]
      rfl

/-- A message has the same body if the values in its mappings have. -/
theorem bodyMessage_congr {m : Message Value} (each : ∀ v ∈ m.values, s.SameBody s' n.depth v) :
    bodyMessage n (lookUpMessage s' m) = bodyMessage n (lookUpMessage s m) := by
  have holds := Message.holds_of_values each
  cases m with
  | propertyFilter m => exact bodyPropertyFilter_congr holds
  | compositeFilter m =>
      obtain ⟨op, filters, mark⟩ := m
      have same := bodyFilters_congr (n := n.deeper) fun f hf =>
        bodyFilter_congr (holds f hf) n.deeper (by simp)
      simp only [lookUpMessage, bodyMessage, same]
  | filter f => exact bodyFilter_congr holds n (Nat.le_refl _)
  | query m => exact bodyQuery_congr holds (Nat.le_refl _)
  | request m =>
      obtain ⟨partition, query⟩ := m
      simp only [lookUpMessage, bodyMessage, bodyQuery_congr holds (Nat.le_refl _)]
  | _ => rfl

end

namespace Workspace

variable {ws ws' : Workspace}

/-- One level of `bodyIn`: a value without a place has the same body in two sights if its `parts`
have, one level further in. Beyond `Nesting.limit` nothing is asked, since both bodies fail. -/
theorem bodyIn_congr {a b : Nat} {way way' : List (Nat × QueryPart)} {v : Value}
    (placeless : v.place? = none) (n : Nesting)
    (inside : n.deeper.depth ≤ Nesting.limit →
      (∀ p ∈ v.parts, (ws.sight a way).SameBody (ws'.sight b way') n.deeper.depth p) ∧
      ∀ entries, v = .mapping entries → ∀ e ∈ entries,
        (e.1.lookUp (ws'.sight b way')).bodyKey = (e.1.lookUp (ws.sight a way)).bodyKey) :
    (v.lookUp (ws'.sight b way')).bodyIn n = (v.lookUp (ws.sight a way)).bodyIn n := by
  cases v with
  | object number look => cases placeless
  | query id state =>
      -- A builder has no body, whatever is seen of it.
      rcases ws'.lookUp_query b way' id state with h' | ⟨q', h'⟩ <;>
        rcases ws.lookUp_query a way id state with h | ⟨q, h⟩ <;> rw [h, h'] <;> rfl
  | list items | tuple items =>
      simp only [Value.lookUp, Value.bodyIn]
      refine Nesting.ifRoom_congr fun room => ?_
      have parts : ∀ p ∈ items, (ws.sight a way).SameBody (ws'.sight b way') n.deeper.depth p :=
        (inside room).1
      rw [bodyItems_congr parts]
  -- Keys are not among the parts that are asked about, so they come from the second hypothesis.
  | mapping entries =>
      simp only [Value.lookUp, Value.bodyIn]
      refine Nesting.ifRoom_congr fun room => ?_
      obtain ⟨parts, keys⟩ := inside room
      rw [bodyEntries_congr (keys entries rfl) fun e he =>
        parts e.2 (List.mem_append_right _ (List.mem_map_of_mem he))]
  | key first second | order first second | config first second =>
      simp only [Value.lookUp, Value.bodyIn]
      refine Nesting.ifRoom_congr fun room => ?_
      obtain ⟨parts, -⟩ := inside room
      rw [parts first (by simp [Value.parts]) n.deeper (Nat.le_refl _),
        parts second (by simp [Value.parts]) n.deeper (Nat.le_refl _)]
  | group property =>
      simp only [Value.lookUp, Value.bodyIn]
      refine Nesting.ifRoom_congr fun room => ?_
      obtain ⟨parts, -⟩ := inside room
      rw [parts property (by simp [Value.parts]) n.deeper (Nat.le_refl _)]
  | message m =>
      simp only [Value.lookUp, Value.bodyIn]
      exact Nesting.ifRoom_congr fun room => bodyMessage_congr (inside room).1
  | _ => rfl

/-- A scalar key is written alike wherever it is seen. -/
theorem bodyKey_lookUp {k : Value} (scalar : (ws.shown k).isScalar = true) (steps : Nat)
    (way : List (Nat × QueryPart)) :
    (k.lookUp (ws.sight (steps + 1) way)).bodyKey = (ws.shown k).bodyKey := by
  have unchanged : ∀ (v : Value) (s : Sight), v.isScalar = true → v.lookUp s = v := by
    intro v s h
    cases v <;> first | rfl | cases h
  cases ws.standing k with
  | free placeless =>
      rw [ws.shown_of_place?_eq_none placeless] at scalar ⊢
      rw [unchanged k _ scalar]
  | lost missing =>
      rw [lookUp_object_of_none missing, shown, missing]
      rfl
  | @kept number look w found =>
      rw [shown, found] at scalar ⊢
      rw [lookUp_object_of_some found, Value.bodyKey]
      exact congrArg Value.bodyKey (unchanged w _ scalar)

theorem SamePlaces.part {v p : Value} (same : ws.SamePlaces ws' v) (among : p ∈ v.parts) :
    ws.SamePlaces ws' p :=
  fun number look inside => same number look (.part among inside)

theorem ScalarKeys.part {v p : Value} (keys : ws.ScalarKeys v) (among : p ∈ v.parts) :
    ws.ScalarKeys p :=
  fun entries inside => keys entries (.part among inside)

theorem SamePlaces.shown {v : Value} (same : ws.SamePlaces ws' v) : ws'.shown v = ws.shown v := by
  cases v with
  | object number look => rw [Workspace.shown, Workspace.shown, same number look .self]
  | _ => rfl

/-- Two workspaces with the same inside of a value show the same body of it. The induction is on the
levels that are left before `Nesting.limit`, and not on the value, as a value may be found inside of
itself through a place. -/
theorem sameBody_of_samePlaces (direct : ws.Direct) (way way' : List (Nat × QueryPart))
    (levels : Nat) : ∀ {a b depth : Nat} {v : Value}, ws.SamePlaces ws' v → ws.ScalarKeys v →
      Nesting.limit ≤ depth + levels → levels < a → levels < b →
      (ws.sight a way).SameBody (ws'.sight b way') depth v := by
  induction levels using Nat.strongRecOn with
  | ind levels ih =>
      -- What is not at a place takes a level for itself, so one step less is enough for its parts.
      have placelessBody : ∀ {a b : Nat} {v : Value}, v.place? = none → ws.SamePlaces ws' v →
          ws.ScalarKeys v → levels ≤ a → levels ≤ b → ∀ n : Nesting,
          Nesting.limit ≤ n.depth + levels →
          (v.lookUp (ws'.sight b way')).bodyIn n = (v.lookUp (ws.sight a way)).bodyIn n := by
        intro a b v placeless same keys ha hb n left
        refine bodyIn_congr placeless n fun room => ?_
        obtain ⟨fewer, rfl⟩ : ∃ k, levels = k + 1 := ⟨levels - 1, by simp at room; omega⟩
        refine ⟨fun p among => ?_, ?_⟩
        · exact ih fewer (by omega) (same.part among) (keys.part among) (by simp; omega) ha hb
        · rintro entries rfl e he
          obtain ⟨a, rfl⟩ : ∃ k, a = k + 1 := ⟨a - 1, by omega⟩
          obtain ⟨b, rfl⟩ : ∃ k, b = k + 1 := ⟨b - 1, by omega⟩
          have among : e.1 ∈ (Value.mapping entries).parts :=
            List.mem_append_left _ (List.mem_map_of_mem he)
          have scalar := keys entries .self e he
          rw [bodyKey_lookUp scalar, bodyKey_lookUp (by rwa [(same.part among).shown]),
            (same.part among).shown]
      intro a b depth v same keys left ha hb n deep
      obtain ⟨a, rfl⟩ : ∃ k, a = k + 1 := ⟨a - 1, by omega⟩
      obtain ⟨b, rfl⟩ : ∃ k, b = k + 1 := ⟨b - 1, by omega⟩
      cases ws.standing v with
      | free placeless => exact placelessBody placeless same keys (by omega) (by omega) n (by omega)
      | @lost number look missing =>
          have here := same number look .self
          rw [missing] at here
          rw [lookUp_object_of_none missing, lookUp_object_of_none here]
      | @kept number look w found =>
          have here := same number look .self
          rw [found] at here
          rw [lookUp_object_of_some found, lookUp_object_of_some here, Value.bodyIn, Value.bodyIn]
          -- A place takes no level itself, so there are as many left for what is there.
          split
          · rfl
          · refine placelessBody (direct w (List.mem_of_getElem? found)) ?_ ?_ (by omega)
              (by omega) (n.enter number) (by simp; omega)
            · exact fun m look inside => same m look (.place found inside)
            · exact fun entries inside => keys entries (.place found inside)

/-! ## Messages -/

/-- The body of a message as it is now. -/
def bodyOf (ws : Workspace) (m : Message Value) : Except Failure Value :=
  (lookUpMessage (ws.sight ws.depth []) m).body

/-- A step that makes a message: a builder is compiled, alone or to a request. -/
inductive Makes (ws : Workspace) : Workspace → Message Value → Prop where
  | compile {id : Nat} {scope : Value} {m : QueryMessage Value}
      (compiled : (ws.compile id (ws.refresh scope)).1.result = .ok m) :
      Makes ws (ws.step (.compile id scope)) (.query m)
  | request {id : Nat} {scope projectId : Value} {m : RequestMessage Value}
      (compiled : (ws.request id (ws.refresh scope) (ws.refresh projectId)).1.result = .ok m) :
      Makes ws (ws.step (.request id scope projectId)) (.request m)

/-- `bodyOf` depends on what is inside of the message only. -/
theorem bodyOf_of_samePlaces (direct : ws.Direct) {m : Message Value}
    (same : ws.SamePlaces ws' (.message m)) (keys : ws.ScalarKeys (.message m)) :
    ws'.bodyOf m = ws.bodyOf m := by
  have deep : ∀ ws : Workspace, Nesting.limit < ws.depth := by
    intro ws
    unfold depth Nesting.limit
    omega
  refine bodyMessage_congr fun v among => ?_
  exact sameBody_of_samePlaces direct [] [] Nesting.limit (same.part among) (keys.part among)
    (Nat.le_add_left _ _) (deep ws) (deep ws')

/-- A message is encoded as it was when it was made, unless a place `Within` it is `written` to.
`CompositeFilter` and `PropertyFilter` have copied their containers by then, but no further than one
level down, so places further inside are still those of the caller. -/
theorem bodyOf_run {before after : List Step} {ws : Workspace} {m : Message Value}
    (made : (empty.run before).Makes ws m) (keys : ws.ScalarKeys (.message m))
    (untouched : ∀ number ∈ ws.written after, ∀ look,
      ¬ ws.Within (.message m) (.object number look)) :
    (ws.run after).bodyOf m = ws.bodyOf m := by
  have direct : ws.Direct := by
    cases made with
    | compile _ => exact (direct_empty.run before).step _
    | request _ => exact (direct_empty.run before).step _
  -- No place inside of the message is written to, so they hold what they held.
  refine bodyOf_of_samePlaces direct (fun number look inside => ?_) keys
  exact run_places_of_not_mem fun written => untouched number written look inside

/-! ## An operand with an array in it -/

/-- A caller puts an array in an operand and records a condition on it. -/
def arraySteps : List Step :=
  [.place (.list []),
   .place (.ofTexts [("arrayValue", .ofTexts [("values", .object 0 fun _ => .none)])]),
   .newBuilder .none,
   .call 0 (.filterBy (.comparison 0 false (.text "tags") (.member (.property .oneOf))
     (.object 1 fun _ => .none)))]

/-- What the caller has when the builder has been compiled. -/
def arrayWorkspace : Workspace := (empty.run arraySteps).step (.compile 0 .none)

/-- The message that the builder compiles to. The array in it is the one of the caller. -/
def arrayMessage (look : Unit → Value) : Message Value :=
  .query ⟨[], [], some (.property ⟨⟨"tags"⟩, .oneOf,
    [("arrayValue", .ofTexts [("values", .object 0 look)])], none⟩), [], [], none, none, 0⟩

/-- The body of that message when there are some items in the array. -/
def arrayBody (items : List Value) : Value :=
  .ofTexts [("kind", .list []), ("projection", .list []),
    ("filter", .ofTexts [("propertyFilter", .ofTexts
      [("property", .ofTexts [("name", .text "tags")]), ("op", .text "IN"),
       ("value", .ofTexts [("arrayValue", .ofTexts [("values", .list items)])])])]),
    ("order", .list []), ("distinctOn", .list []), ("offset", .int 0)]

theorem makes_arrayMessage : ∃ look,
    (empty.run arraySteps).Makes arrayWorkspace (arrayMessage look) :=
  ⟨_, .compile rfl⟩

/-- The operand itself, which is at the second place, is not inside of the message. -/
theorem within_arrayMessage {look : Unit → Value} {w : Value}
    (inside : arrayWorkspace.Within (.message (arrayMessage look)) w) :
    w = .message (arrayMessage look) ∨ w = .ofTexts [("values", .object 0 look)] ∨
      w = .text "values" ∨ w = .object 0 look ∨ w = .list [] := by
  obtain _ | ⟨among, inside⟩ := inside
  · exact .inl rfl
  obtain rfl := List.mem_singleton.mp among
  obtain _ | ⟨among, inside⟩ := inside
  · exact .inr (.inl rfl)
  obtain rfl | rfl : _ = Value.text "values" ∨ _ = Value.object 0 look := by
    simpa [Value.ofTexts, Value.parts] using among
  · obtain _ | ⟨⟨⟩, _⟩ := inside
    exact .inr (.inr (.inl rfl))
  · obtain _ | ⟨⟨⟩, _⟩ | ⟨found, inside⟩ := inside
    · exact .inr (.inr (.inr (.inl rfl)))
    · obtain rfl := Option.some.inj (found.symm.trans (rfl : _ = some (Value.list [])))
      obtain _ | ⟨⟨⟩, _⟩ := inside
      exact .inr (.inr (.inr (.inr rfl)))

/-- A key of the operand is set, and a copy of the builder is called and compiled. -/
theorem bodyOf_run_operand :
    let after : List Step :=
      [.put (.object 1 fun _ => .none) (.text "arrayValue") (.text "other"),
       .copy 0, .call 1 (.limit (.int 5)), .compile 1 .none]
    ∃ m, (empty.run arraySteps).Makes arrayWorkspace m ∧
      arrayWorkspace.ScalarKeys (.message m) ∧
      (∀ number ∈ arrayWorkspace.written after, ∀ look,
        ¬ arrayWorkspace.Within (.message m) (.object number look)) ∧
      arrayWorkspace.bodyOf m = .ok (arrayBody []) ∧
      (arrayWorkspace.run after).bodyOf m = arrayWorkspace.bodyOf m := by
  intro after
  obtain ⟨look, made⟩ := makes_arrayMessage
  have keys : arrayWorkspace.ScalarKeys (.message (arrayMessage look)) := by
    intro entries inside e he
    rcases within_arrayMessage inside with h | h | h | h | h <;> cases h
    obtain rfl := List.mem_singleton.mp he
    rfl
  have untouched : ∀ number ∈ arrayWorkspace.written after, ∀ other,
      ¬ arrayWorkspace.Within (.message (arrayMessage look)) (.object number other) := by
    intro number written other inside
    obtain rfl : number = 1 := List.mem_singleton.mp written
    rcases within_arrayMessage inside with h | h | h | h | h <;> cases h
  exact ⟨_, made, keys, untouched, rfl, bodyOf_run made keys untouched⟩

/-- Something is added to the array, and the message, made before, has it in its body. -/
theorem bodyOf_run_nested :
    let item : Value := .ofTexts [("integerValue", .text "1")]
    let after : List Step := [.append (.object 0 fun _ => .none) item]
    ∃ m, (empty.run arraySteps).Makes arrayWorkspace m ∧
      arrayWorkspace.bodyOf m = .ok (arrayBody []) ∧
      (arrayWorkspace.run after).bodyOf m = .ok (arrayBody [item]) ∧
      (arrayWorkspace.run after).bodyOf m ≠ arrayWorkspace.bodyOf m := by
  intro item after
  obtain ⟨look, made⟩ := makes_arrayMessage
  have old : arrayWorkspace.bodyOf (arrayMessage look) = .ok (arrayBody []) := rfl
  have new : (arrayWorkspace.run after).bodyOf (arrayMessage look) = .ok (arrayBody [item]) := rfl
  refine ⟨_, made, old, new, ?_⟩
  rw [old, new]
  simp [arrayBody, Value.ofTexts]

end Workspace

end EntityQuery
