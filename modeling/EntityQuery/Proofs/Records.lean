import EntityQuery.Proofs.Copies

/-!
# What calls record

A call records its arguments, or something that it finds out about them when it is made. It does so
in a workspace that has seen other calls on other builders. What it records does not depend on
these: it refers to the same places and builders, and what is found out is decided by what is at
the places.

* `Shallow` properties of a value do not depend on how the value is looked at, if what is at the
  places is the same.
* `Query.Call.RecordAlike` compares two calls by what they put into each field.
  `Query.references_apply` is about builders on which such calls are made.
* `Workspace.recordAlike_refresh` says that a call records alike in two workspaces with the same at
  their places, if none of its arguments is a builder.
-/

namespace EntityQuery

/-! ## What shows of arguments -/

/-- Is a value a builder? -/
def Value.isBuilder : Value → Bool
  | .query .. | .unseen => true
  | .object _ look => (look ()).isBuilder
  | _ => false

/-- A property of a value that does not depend on how it is looked at, if what is at the places is
the same. It is weaker than `Superficial`: the items of a list count, two steps down. -/
structure Shallow {α : Type} (f : Value → α) : Prop where
  object : ∀ number look, f (.object number look) = f (look ())
  lookUp : ∀ {ws ws' : Workspace}, ws.Direct → ws'.places = ws.places →
    ∀ steps way steps' way' (v : Value), v.place? = none →
      f (v.lookUp (ws'.sight (steps' + 1) way')) = f (v.lookUp (ws.sight (steps + 1) way))

theorem Superficial.shallow {α : Type} {f : Value → α} (h : Superficial f) : Shallow f where
  object := h.object
  lookUp _ _ _ _ _ _ v placeless := by
    rw [h.lookUp _ _ _ v placeless, h.lookUp _ _ _ v placeless]

/-- From two steps down on, it does not matter how far a value is looked at. -/
theorem Shallow.lookUp_eq {α : Type} {f : Value → α} (h : Shallow f) {ws ws' : Workspace}
    (direct : ws.Direct) (places : ws'.places = ws.places) (steps steps' : Nat)
    (way way' : List (Nat × QueryPart)) (v : Value) :
    f (v.lookUp (ws'.sight (steps' + 2) way')) = f (v.lookUp (ws.sight (steps + 2) way)) := by
  cases ws.standing v with
  | free placeless => exact h.lookUp direct places _ _ _ _ v placeless
  | lost missing =>
      rw [Workspace.lookUp_object_of_none missing,
        Workspace.lookUp_object_of_none (places ▸ missing)]
  | @kept number look w found =>
      rw [Workspace.lookUp_object_of_some found,
        Workspace.lookUp_object_of_some (places ▸ found), h.object, h.object]
      exact h.lookUp direct places _ _ _ _ w (direct w (List.mem_of_getElem? found))

theorem Shallow.refresh_eq {α : Type} {f : Value → α} (h : Shallow f) {ws ws' : Workspace}
    (direct : ws.Direct) (places : ws'.places = ws.places) (v : Value) :
    f (ws'.refresh v) = f (ws.refresh v) := by
  obtain ⟨steps, depth⟩ := ws.exists_depth_eq
  obtain ⟨steps', depth'⟩ := ws'.exists_depth_eq
  rw [Workspace.refresh, Workspace.refresh, depth, depth']
  exact h.lookUp_eq direct places steps steps' [] [] v

theorem superficial_isBuilder : Superficial Value.isBuilder where
  object _ _ := rfl
  lookUp ws steps way v direct := by
    cases v with
    | object => cases direct
    | query id state => rcases ws.lookUp_query steps way id state with h | ⟨q, h⟩ <;> rw [h] <;> rfl
    | _ => rfl

/-! ## Names and sort keys -/

theorem references_refresh (ws : Workspace) (v : Value) :
    (ws.refresh v).lookUp .references = v.lookUp .references := by
  obtain ⟨steps, depth⟩ := ws.exists_depth_eq
  rw [Workspace.refresh, depth]
  exact v.references_lookUp ws (steps + 1) []

theorem superficial_asText? : Superficial Value.asText? where
  object _ _ := rfl
  lookUp ws steps way v direct := by
    cases v with
    | object => cases direct
    | query id state => rcases ws.lookUp_query steps way id state with h | ⟨q, h⟩ <;> rw [h] <;> rfl
    | _ => rfl

/-- What the items of a value refer to. A projection call records items, and only their references
last. -/
def Value.itemReferences? (v : Value) : Option (List Value) :=
  v.items?.map (lookUpItems .references)

theorem shallow_itemReferences? : Shallow Value.itemReferences? where
  object _ _ := rfl
  lookUp := by
    have same : ∀ (ws : Workspace) steps way (v : Value), v.place? = none →
        (v.lookUp (ws.sight (steps + 1) way)).itemReferences? = v.itemReferences? := by
      intro ws steps way v placeless
      rw [Value.itemReferences?, Value.items?_lookUp ws _ way placeless, Option.map_map]
      refine congrFun (congrArg Option.map ?_) _
      funext items
      rw [Function.comp_apply, lookUpItems_eq_map, lookUpItems_eq_map, lookUpItems_eq_map,
        List.map_map]
      exact List.map_congr_left fun v _ => v.references_lookUp ws steps way
    intro ws ws' _ _ steps way steps' way' v placeless
    rw [same _ _ _ _ placeless, same _ _ _ _ placeless]

/-- What the names refer to that an argument of a projection call stands for. -/
def Value.names? (v : Value) : Option (List Value) :=
  v.projected?.map (lookUpItems .references)

theorem Value.names?_eq (v : Value) :
    v.names? =
      if v.asText?.isSome then some [v.lookUp .references] else v.itemReferences? := by
  unfold names? projected?
  split <;> rfl

/-- An order is compiled from whatever spells a property and a direction. -/
theorem Order.compile_eq_ok_iff {property direction : Value} {m : PropertyOrder} :
    compile property direction = .ok m ↔ property.spelling? = some m.property.name ∧
      direction.spelling?.bind Direction.ofSpelling? = some m.direction := by
  simp only [compile, bind_eq_ok_iff, PropertyReference.make_eq_ok_iff, PropertyOrder.make_eq,
    Checked.orInvalid_eq_ok_iff, Checked.and_eq_ok, Checked.under_eq_ok, checkDirection,
    checkMember_eq_ok_iff]
  constructor
  · rintro ⟨reference, isProperty, _, d, made, isDirection, rfl⟩
    cases made
    exact ⟨isProperty, isDirection⟩
  · rintro ⟨isProperty, isDirection⟩
    exact ⟨m.property, isProperty, _, m.direction, rfl, isDirection, rfl⟩

/-- Results that are the same message where there is one. Failures may differ here, as they describe
values that are seen differently. -/
theorem toOption_congr {ε α : Type} {x y : Except ε α} (same : ∀ a, x = .ok a ↔ y = .ok a) :
    x.toOption = y.toOption := by
  cases x with
  | ok a => rw [(same a).mp rfl]
  | error e =>
      cases y with
      | ok b => exact absurd ((same b).mpr rfl) (by simp)
      | error e' => rfl

/-- What a value is compiled to without a namespace, unless it is a builder. Orders and groups are
compiled when they are recorded. -/
def Value.sortKey? (v : Value) : Option (Message Value) :=
  if v.isBuilder then Option.none else v.compileAlone.result.toOption

theorem Value.sortKey?_order (property direction : Value) :
    (Value.order property direction).sortKey? =
      (Order.compile property direction).toOption.map .propertyOrder := by
  show (Message.propertyOrder <$> Order.compile property direction).toOption = _
  cases Order.compile property direction <;> rfl

theorem Value.sortKey?_group (property : Value) :
    (Value.group property).sortKey? =
      (PropertyReference.make property).toOption.map .propertyReference := by
  show (Message.propertyReference <$> PropertyReference.make property).toOption = _
  cases PropertyReference.make property <;> rfl

/-- `sortKey?` reads a property and a direction, which are one step down. -/
theorem shallow_sortKey? : Shallow Value.sortKey? where
  object _ _ := rfl
  lookUp := by
    intro ws ws' direct places steps way steps' way' v placeless
    -- Sort keys are compiled from spellings, which are decided by what is at the places.
    have spelling : ∀ v : Value, (v.lookUp (ws'.sight (steps' + 1) way')).spelling? =
        (v.lookUp (ws.sight (steps + 1) way)).spelling? := by
      intro v
      have same := superficial_readings.lookUp_eq direct rfl steps way v
      rw [← superficial_readings.lookUp_eq direct places steps' way' v] at same
      exact (congrArg Readings.spelling? same).symm
    cases v with
    | object => cases placeless
    | query id state =>
        rcases ws.lookUp_query (steps + 1) way id state with h | ⟨q, h⟩ <;>
          rcases ws'.lookUp_query (steps' + 1) way' id state with h' | ⟨q', h'⟩ <;>
          rw [h, h'] <;> rfl
    | order property direction =>
        rw [Value.lookUp, Value.lookUp, Value.sortKey?_order, Value.sortKey?_order]
        refine congrArg _ (toOption_congr fun m => ?_)
        rw [Order.compile_eq_ok_iff, Order.compile_eq_ok_iff, spelling, spelling]
    | group property =>
        rw [Value.lookUp, Value.lookUp, Value.sortKey?_group, Value.sortKey?_group]
        refine congrArg _ (toOption_congr fun m => ?_)
        rw [PropertyReference.make_eq_ok_iff, PropertyReference.make_eq_ok_iff, spelling]
    | _ => exact Eq.trans (b := none) rfl rfl

/-! ## Page settings -/

theorem superficial_isNegative : Superficial fun v => (Query.isNegative v).toOption where
  object _ _ := rfl
  lookUp ws steps way v direct := by
    cases v with
    | object => cases direct
    | query id state => rcases ws.lookUp_query steps way id state with h | ⟨q, h⟩ <;> rw [h] <;> rfl
    | _ => rfl

/-- A page setting passes if the configuration is not strict or the setting is not negative. -/
theorem Query.checkPage_toOption (config : Value) (field : PageField) (v : Value) :
    (checkPage config field v).toOption =
      match config.strict?, (isNegative v).toOption with
      | some false, _ => some ()
      | some true, some false => some ()
      | _, _ => none := by
  unfold checkPage isStrict Value.strict?
  cases config.content with
  | config dflt strict =>
      dsimp only
      cases strict.truthy with
      | false => rfl
      | true =>
          cases isNegative v with
          | error e => rfl
          | ok negative =>
              cases negative with
              | false => rfl
              | true => cases v.display <;> rfl
  | _ => rfl

/-! ## What a call records -/

/-- What a builder has recorded, by what it refers to. -/
def QueryState.references (q : QueryState Value) : QueryState Value :=
  q.lookUp fun _ => .references

namespace Query

/-- What a projection call records depends on what the names of its arguments refer to. -/
theorem references_recorded (arguments : List Value) :
    lookUpItems .references (recorded arguments) =
      ((arguments.map Value.names?).takeWhile Option.isSome).flatMap (·.getD []) := by
  induction arguments with
  | nil => rfl
  | cons v rest ih =>
      unfold recorded at ih ⊢
      rw [List.map_cons, List.takeWhile_cons, List.takeWhile_cons, Value.names?, Option.isSome_map]
      cases read : v.projected? with
      | none => rfl
      | some names =>
          simp only [Option.isSome_some, if_true, List.flatMap_cons, Option.getD_some,
            Option.map_some, lookUpItems_append, ih, read]

/-- Two calls put the same into each field, by what it refers to. -/
structure Call.RecordAlike (c c' : Call) : Prop where
  kinds : lookUpItems .references c.kinds = lookUpItems .references c'.kinds
  projections : lookUpItems .references c.projections = lookUpItems .references c'.projections
  units : lookUpItems .references c.units = lookUpItems .references c'.units
  orders : c.orders = c'.orders
  groups : c.groups = c'.groups
  cursor : c.cursor?.map (·.lookUp .references) = c'.cursor?.map (·.lookUp .references)
  limit : ∀ {config config' : Value}, config.strict? = config'.strict? →
    (c.limit? config).map (·.lookUp .references) = (c'.limit? config').map (·.lookUp .references)
  offset : ∀ {config config' : Value}, config.strict? = config'.strict? →
    (c.offset? config).map (·.lookUp .references) = (c'.offset? config').map (·.lookUp .references)

/-- Calls that `RecordAlike` do so on builders that have recorded the same, by cases on the
field. -/
theorem references_apply {q q' : Query} (same : q.references = q'.references)
    (strict : q.config.strict? = q'.config.strict?) {c c' : Call} (alike : c.RecordAlike c') :
    (q.apply c).state.references = (q'.apply c').state.references := by
  have put : ∀ (o : Option Value) (v : Value), (o.getD v).lookUp .references =
      (o.map (·.lookUp .references)).getD (v.lookUp .references) :=
    fun o v => (Option.getD_map ..).symm
  rw [apply_state, apply_state]
  simp only [QueryState.references, QueryState.lookUp, QueryState.mk.injEq] at same ⊢
  obtain ⟨config, kinds, projections, filters, orders, groups, startCursor, limit, offset⟩ := same
  refine ⟨config, ?_, ?_, ?_, ?_, ?_, ?_, ?_, ?_⟩
  · rw [lookUpItems_append, lookUpItems_append, kinds, alike.kinds]
  · rw [lookUpItems_append, lookUpItems_append, projections, alike.projections]
  · rw [lookUpItems_append, lookUpItems_append, filters, alike.units]
  · rw [orders, alike.orders]
  · rw [groups, alike.groups]
  · rw [put, put, startCursor, alike.cursor]
  · rw [put, put, limit, alike.limit strict]
  · rw [put, put, offset, alike.offset strict]

/-- The arguments of a call. -/
def Call.arguments : Call → List Value
  | .keysOnly | .clearOffset => []
  | .properties names => names
  | .kindOf v | .filterBy v | .orderBy v | .groupBy v => [v]
  | .fromCursor v | .limit v | .offset v => [v]

/-- A call records the same with arguments that refer to the same and are read alike. -/
theorem Call.recordAlike_map {f f' : Value → Value} {c : Call}
    (references : ∀ v, (f v).lookUp .references = (f' v).lookUp .references)
    (names : ∀ v, (f v).names? = (f' v).names?)
    (compiled : ∀ v ∈ c.arguments,
      (f v).compileAlone.result.toOption = (f' v).compileAlone.result.toOption)
    (negative : ∀ v, (isNegative (f v)).toOption = (isNegative (f' v)).toOption) :
    (c.map f).RecordAlike (c.map f') := by
  -- The two paging calls differ in their field only.
  have accepted : ∀ {config config' : Value}, config.strict? = config'.strict? →
      ∀ (field : PageField) (v : Value),
        (accepted? config field (f v)).map (·.lookUp .references) =
          (accepted? config' field (f' v)).map (·.lookUp .references) := by
    intro config config' strict field v
    unfold accepted?
    rw [checkPage_toOption, checkPage_toOption, strict, negative, Option.map_map, Option.map_map]
    refine congrFun (congrArg Option.map ?_) _
    exact funext fun _ => references v
  refine ⟨?_, ?_, ?_, ?_, ?_, ?_, ?_, ?_⟩
  · cases c with
    | kindOf v => simp only [map, kinds, lookUpItems, references]
    | _ => rfl
  · rw [projections_eq_recorded, projections_eq_recorded]
    cases c with
    | properties arguments =>
        simp only [map, recorded, references_recorded, List.map_map]
        have same : Value.names? ∘ f = Value.names? ∘ f' := funext names
        rw [same]
    | _ => rfl
  · cases c with
    | filterBy v => simp only [map, units, lookUpItems, references]
    | _ => rfl
  · cases c with
    | orderBy v => simp only [map, orders, compiled v (List.mem_singleton_self v)]
    | _ => rfl
  · cases c with
    | groupBy v => simp only [map, groups, compiled v (List.mem_singleton_self v)]
    | _ => rfl
  · cases c with
    | fromCursor v => simp only [map, cursor?, Option.map_some, references]
    | _ => rfl
  · intro config config' strict
    cases c with
    | limit v => exact accepted strict .limit v
    | _ => rfl
  · intro config config' strict
    cases c with
    | offset v => exact accepted strict .offset v
    | _ => rfl

end Query

namespace Workspace

section

variable {ws ws' : Workspace} (direct : ws.Direct) (places : ws'.places = ws.places)

include direct places

theorem names?_refresh (v : Value) : (ws'.refresh v).names? = (ws.refresh v).names? := by
  rw [Value.names?_eq, Value.names?_eq, superficial_asText?.shallow.refresh_eq direct places,
    shallow_itemReferences?.refresh_eq direct places, references_refresh, references_refresh]

/-- `compileAlone` of an argument that is no builder gives the same message wherever it is looked
at. -/
theorem compileAlone_refresh {v : Value} (noBuilder : (ws.refresh v).isBuilder = false) :
    (ws'.refresh v).compileAlone.result.toOption = (ws.refresh v).compileAlone.result.toOption := by
  have same := shallow_sortKey?.refresh_eq direct places v
  rw [Value.sortKey?, Value.sortKey?, superficial_isBuilder.shallow.refresh_eq direct places,
    noBuilder] at same
  exact same

/-- A call records the same in workspaces with the same at their places. -/
theorem recordAlike_refresh {c : Query.Call}
    (noBuilder : ∀ v ∈ c.arguments, (ws.refresh v).isBuilder = false) :
    (c.map ws'.refresh).RecordAlike (c.map ws.refresh) := by
  refine Query.Call.recordAlike_map ?_ (names?_refresh direct places) ?_
    (superficial_isNegative.shallow.refresh_eq direct places)
  · intro v
    rw [references_refresh, references_refresh]
  · exact fun v hv => compileAlone_refresh direct places (noBuilder v hv)

end

end Workspace

end EntityQuery
