import Mathlib.Data.List.Basic
import EntityQuery.Proofs.Steps

/-!
# Laws of looking

Looking up the references in a value is a substitution: what becomes of a value depends on what
becomes of its references, and one look after another is a look.

* `Value.refs` are the references in a value that are not behind another one, and
  `Value.lookUp_congr` says that two sights show the same of a value if they show the same of these.
* `Value.lookUp_lookUp` composes two sights, and `Value.items?_lookUp` is about going through a
  value that is looked at.
* `Sight.references` shows of a value what it refers to and nothing of what is there. Whoever has
  looked before, it shows the same: `Value.references_lookUp`.
* `Workspace.Builderless` values have no builder inside of them, at whatever places, and show the
  same on all ways: `Workspace.Builderless.lookUp_eq`.
-/

namespace EntityQuery

/-! ## References -/

/-- A reference in a value: to a place or to a builder, as it has been seen before. A `Sight` is
asked for nothing else, so a value shows the same in two sights that agree on its references. -/
inductive Ref where
  | place (number : Nat) (look : Unit → Value)
  | builder (id : Nat) (state : QueryState Value)

/-- A reference that is looked up. -/
def Ref.lookUp (sight : Sight) : Ref → Value
  | .place number look => sight.place number look
  | .builder id state => sight.builder id state

mutual

/-- The references in a value that are not behind another one. They are what `lookUp` asks its sight
about. -/
def Value.refs : Value → List Ref
  | .list items => refsOfItems items
  | .tuple items => refsOfItems items
  | .mapping entries => refsOfEntries entries
  | .object number look => [.place number look]
  | .key path keyNamespace => path.refs ++ keyNamespace.refs
  | .comparison _ _ property op operand => property.refs ++ (op.refs ++ operand.refs)
  | .combination _ op parts => op.refs ++ refsOfItems parts
  | .order property direction => property.refs ++ direction.refs
  | .group property => property.refs
  | .config defaultNamespace strict => defaultNamespace.refs ++ strict.refs
  | .message m => refsOfMessage m
  | .query id state => [.builder id state]
  | .recorder _ name => name.refs
  | .answering _ result => result.refs
  | .scoped _ lead => lead.refs
  | .giving _ v => v.refs
  | _ => []
termination_by structural v => v

def refsOfItems : List Value → List Ref
  | [] => []
  | v :: rest => v.refs ++ refsOfItems rest
termination_by structural items => items

def refsOfEntries : List (Value × Value) → List Ref
  | [] => []
  | (k, v) :: rest => k.refs ++ (v.refs ++ refsOfEntries rest)
termination_by structural entries => entries

def refsOfMapping : List (String × Value) → List Ref
  | [] => []
  | (_, v) :: rest => v.refs ++ refsOfMapping rest
termination_by structural entries => entries

def refsOfPropertyFilter : PropertyFilter Value → List Ref
  | ⟨_, _, value, _⟩ => refsOfMapping value
termination_by structural m => m

def refsOfFilter : Filter Value → List Ref
  | .property m => refsOfPropertyFilter m
  | .composite _ filters _ => refsOfFilters filters
termination_by structural m => m

def refsOfFilters : List (Filter Value) → List Ref
  | [] => []
  | f :: rest => refsOfFilter f ++ refsOfFilters rest
termination_by structural filters => filters

def refsOfFilter? : Option (Filter Value) → List Ref
  | none => []
  | some f => refsOfFilter f
termination_by structural filter => filter

def refsOfQueryMessage : QueryMessage Value → List Ref
  | ⟨_, _, filter, _, _, _, _, _⟩ => refsOfFilter? filter
termination_by structural m => m

def refsOfMessage : Message Value → List Ref
  | .propertyFilter m => refsOfPropertyFilter m
  | .compositeFilter ⟨_, filters, _⟩ => refsOfFilters filters
  | .filter m => refsOfFilter m
  | .query m => refsOfQueryMessage m
  | .request ⟨_, query⟩ => refsOfQueryMessage query
  | _ => []
termination_by structural m => m

end

section

variable {s s' : Sight}

/-- Two sights show the same of some references. With `Value.refs` for the references this is all
that `Value.lookUp_congr` asks. -/
def Sight.Agree (s s' : Sight) (refs : List Ref) : Prop :=
  ∀ r ∈ refs, r.lookUp s = r.lookUp s'

theorem Sight.agree_append {refs refs' : List Ref} :
    s.Agree s' (refs ++ refs') ↔ s.Agree s' refs ∧ s.Agree s' refs' := List.forall_mem_append

mutual

/-- `lookUp` depends on what the sights show of `refs` only. The induction is mutual, one lemma for
each function of `lookUp`. -/
theorem Value.lookUp_congr : (v : Value) → s.Agree s' v.refs → v.lookUp s = v.lookUp s'
  | .list items, h => congrArg Value.list (lookUpItems_congr items h)
  | .tuple items, h => congrArg Value.tuple (lookUpItems_congr items h)
  | .mapping entries, h => congrArg Value.mapping (lookUpEntries_congr entries h)
  | .object number look, h => h _ (List.mem_singleton_self _)
  | .key path keyNamespace, h => by
      obtain ⟨hp, hn⟩ := Sight.agree_append.mp h
      rw [Value.lookUp, Value.lookUp, path.lookUp_congr hp, keyNamespace.lookUp_congr hn]
  | .comparison mark isAncestor property op operand, h => by
      obtain ⟨hp, h⟩ := Sight.agree_append.mp h
      obtain ⟨ho, hv⟩ := Sight.agree_append.mp h
      rw [Value.lookUp, Value.lookUp, property.lookUp_congr hp, op.lookUp_congr ho,
        operand.lookUp_congr hv]
  | .combination mark op parts, h => by
      obtain ⟨ho, hp⟩ := Sight.agree_append.mp h
      rw [Value.lookUp, Value.lookUp, op.lookUp_congr ho, lookUpItems_congr parts hp]
  | .order property direction, h => by
      obtain ⟨hp, hd⟩ := Sight.agree_append.mp h
      rw [Value.lookUp, Value.lookUp, property.lookUp_congr hp, direction.lookUp_congr hd]
  | .group property, h => congrArg Value.group (property.lookUp_congr h)
  | .config defaultNamespace strict, h => by
      obtain ⟨hn, hs⟩ := Sight.agree_append.mp h
      rw [Value.lookUp, Value.lookUp, defaultNamespace.lookUp_congr hn, strict.lookUp_congr hs]
  | .message m, h => congrArg Value.message (lookUpMessage_congr m h)
  | .query id state, h => h _ (List.mem_singleton_self _)
  | .recorder mark name, h => congrArg (Value.recorder mark) (name.lookUp_congr h)
  | .answering mark result, h => congrArg (Value.answering mark) (result.lookUp_congr h)
  | .scoped mark lead, h => congrArg (Value.scoped mark) (lead.lookUp_congr h)
  | .giving mark v, h => congrArg (Value.giving mark) (v.lookUp_congr h)
  | .none, _ | .bool _, _ | .int _, _ | .float _, _ | .text _, _ | .bytes _, _ => rfl
  | .unseen, _ | .member _, _ => rfl
termination_by structural v => v

theorem lookUpItems_congr : (items : List Value) → s.Agree s' (refsOfItems items) →
    lookUpItems s items = lookUpItems s' items
  | [], _ => rfl
  | v :: rest, h => by
      obtain ⟨hv, hr⟩ := Sight.agree_append.mp h
      rw [lookUpItems, lookUpItems, v.lookUp_congr hv, lookUpItems_congr rest hr]
termination_by structural items => items

theorem lookUpEntries_congr : (entries : List (Value × Value)) →
    s.Agree s' (refsOfEntries entries) → lookUpEntries s entries = lookUpEntries s' entries
  | [], _ => rfl
  | (k, v) :: rest, h => by
      obtain ⟨hk, h⟩ := Sight.agree_append.mp h
      obtain ⟨hv, hr⟩ := Sight.agree_append.mp h
      rw [lookUpEntries, lookUpEntries, k.lookUp_congr hk, v.lookUp_congr hv,
        lookUpEntries_congr rest hr]
termination_by structural entries => entries

theorem lookUpMapping_congr : (entries : List (String × Value)) →
    s.Agree s' (refsOfMapping entries) → lookUpMapping s entries = lookUpMapping s' entries
  | [], _ => rfl
  | (k, v) :: rest, h => by
      obtain ⟨hv, hr⟩ := Sight.agree_append.mp h
      rw [lookUpMapping, lookUpMapping, v.lookUp_congr hv, lookUpMapping_congr rest hr]
termination_by structural entries => entries

theorem lookUpPropertyFilter_congr : (m : PropertyFilter Value) →
    s.Agree s' (refsOfPropertyFilter m) → lookUpPropertyFilter s m = lookUpPropertyFilter s' m
  | ⟨_, _, value, _⟩, h => by
      rw [lookUpPropertyFilter, lookUpPropertyFilter, lookUpMapping_congr value h]
termination_by structural m => m

theorem lookUpFilter_congr : (m : Filter Value) → s.Agree s' (refsOfFilter m) →
    lookUpFilter s m = lookUpFilter s' m
  | .property m, h => congrArg Filter.property (lookUpPropertyFilter_congr m h)
  | .composite op filters mark, h => by
      rw [lookUpFilter, lookUpFilter, lookUpFilters_congr filters h]
termination_by structural m => m

theorem lookUpFilters_congr : (filters : List (Filter Value)) →
    s.Agree s' (refsOfFilters filters) → lookUpFilters s filters = lookUpFilters s' filters
  | [], _ => rfl
  | f :: rest, h => by
      obtain ⟨hf, hr⟩ := Sight.agree_append.mp h
      rw [lookUpFilters, lookUpFilters, lookUpFilter_congr f hf, lookUpFilters_congr rest hr]
termination_by structural filters => filters

theorem lookUpFilter?_congr : (filter : Option (Filter Value)) →
    s.Agree s' (refsOfFilter? filter) → lookUpFilter? s filter = lookUpFilter? s' filter
  | none, _ => rfl
  | some f, h => congrArg some (lookUpFilter_congr f h)
termination_by structural filter => filter

theorem lookUpQueryMessage_congr : (m : QueryMessage Value) →
    s.Agree s' (refsOfQueryMessage m) → lookUpQueryMessage s m = lookUpQueryMessage s' m
  | ⟨_, _, filter, _, _, _, _, _⟩, h => by
      rw [lookUpQueryMessage, lookUpQueryMessage, lookUpFilter?_congr filter h]
termination_by structural m => m

theorem lookUpMessage_congr : (m : Message Value) → s.Agree s' (refsOfMessage m) →
    lookUpMessage s m = lookUpMessage s' m
  | .propertyFilter m, h => congrArg Message.propertyFilter (lookUpPropertyFilter_congr m h)
  | .compositeFilter ⟨_, filters, _⟩, h => by
      rw [lookUpMessage, lookUpMessage, lookUpFilters_congr filters h]
  | .filter m, h => congrArg Message.filter (lookUpFilter_congr m h)
  | .query m, h => congrArg Message.query (lookUpQueryMessage_congr m h)
  | .request ⟨_, query⟩, h => by
      rw [lookUpMessage, lookUpMessage, lookUpQueryMessage_congr query h]
  | .bare, _ | .kindExpression _, _ | .propertyReference _, _ | .projection _, _ => rfl
  | .propertyOrder _, _ | .partitionId _, _ => rfl
termination_by structural m => m

end

end

/-! ## Composition -/

/-- One sight after another: what the first one shows is looked at by the second, which
`Value.lookUp_lookUp` carries over to whole values. -/
def Sight.andThen (s t : Sight) : Sight where
  place := fun number look => (s.place number look).lookUp t
  builder := fun id state => (s.builder id state).lookUp t

section

variable (s t : Sight)

mutual

/-- Looking twice is looking once, with `Sight.andThen`. A refreshed argument is looked at again by
a later call, and this is what is seen then. -/
theorem Value.lookUp_lookUp : (v : Value) → (v.lookUp s).lookUp t = v.lookUp (s.andThen t)
  | .list items => congrArg Value.list (lookUpItems_lookUpItems items)
  | .tuple items => congrArg Value.tuple (lookUpItems_lookUpItems items)
  | .mapping entries => congrArg Value.mapping (lookUpEntries_lookUpEntries entries)
  | .key path keyNamespace =>
      congrArg₂ Value.key path.lookUp_lookUp keyNamespace.lookUp_lookUp
  | .comparison mark isAncestor property op operand => by
      simp only [Value.lookUp, property.lookUp_lookUp, op.lookUp_lookUp, operand.lookUp_lookUp]
  | .combination mark op parts =>
      congrArg₂ (Value.combination mark) op.lookUp_lookUp (lookUpItems_lookUpItems parts)
  | .order property direction =>
      congrArg₂ Value.order property.lookUp_lookUp direction.lookUp_lookUp
  | .group property => congrArg Value.group property.lookUp_lookUp
  | .config defaultNamespace strict =>
      congrArg₂ Value.config defaultNamespace.lookUp_lookUp strict.lookUp_lookUp
  | .message m => congrArg Value.message (lookUpMessage_lookUpMessage m)
  | .recorder mark name => congrArg (Value.recorder mark) name.lookUp_lookUp
  | .answering mark result => congrArg (Value.answering mark) result.lookUp_lookUp
  | .scoped mark lead => congrArg (Value.scoped mark) lead.lookUp_lookUp
  | .giving mark v => congrArg (Value.giving mark) v.lookUp_lookUp
  | .object .. | .query .. => rfl
  | .none | .bool _ | .int _ | .float _ | .text _ | .bytes _ | .unseen | .member _ => rfl
termination_by structural v => v

theorem lookUpItems_lookUpItems : (items : List Value) →
    lookUpItems t (lookUpItems s items) = lookUpItems (s.andThen t) items
  | [] => rfl
  | v :: rest => congrArg₂ List.cons v.lookUp_lookUp (lookUpItems_lookUpItems rest)
termination_by structural items => items

theorem lookUpEntries_lookUpEntries : (entries : List (Value × Value)) →
    lookUpEntries t (lookUpEntries s entries) = lookUpEntries (s.andThen t) entries
  | [] => rfl
  | (k, v) :: rest => by
      simp only [lookUpEntries, k.lookUp_lookUp, v.lookUp_lookUp,
        lookUpEntries_lookUpEntries rest]
termination_by structural entries => entries

theorem lookUpMapping_lookUpMapping : (entries : List (String × Value)) →
    lookUpMapping t (lookUpMapping s entries) = lookUpMapping (s.andThen t) entries
  | [] => rfl
  | (k, v) :: rest => by
      simp only [lookUpMapping, v.lookUp_lookUp, lookUpMapping_lookUpMapping rest]
termination_by structural entries => entries

theorem lookUpPropertyFilter_lookUpPropertyFilter : (m : PropertyFilter Value) →
    lookUpPropertyFilter t (lookUpPropertyFilter s m) = lookUpPropertyFilter (s.andThen t) m
  | ⟨_, _, value, _⟩ => by
      simp only [lookUpPropertyFilter, lookUpMapping_lookUpMapping value]
termination_by structural m => m

theorem lookUpFilter_lookUpFilter : (m : Filter Value) →
    lookUpFilter t (lookUpFilter s m) = lookUpFilter (s.andThen t) m
  | .property m => congrArg Filter.property (lookUpPropertyFilter_lookUpPropertyFilter m)
  | .composite op filters mark =>
      congrArg (Filter.composite op · mark) (lookUpFilters_lookUpFilters filters)
termination_by structural m => m

theorem lookUpFilters_lookUpFilters : (filters : List (Filter Value)) →
    lookUpFilters t (lookUpFilters s filters) = lookUpFilters (s.andThen t) filters
  | [] => rfl
  | f :: rest =>
      congrArg₂ List.cons (lookUpFilter_lookUpFilter f) (lookUpFilters_lookUpFilters rest)
termination_by structural filters => filters

theorem lookUpFilter?_lookUpFilter? : (filter : Option (Filter Value)) →
    lookUpFilter? t (lookUpFilter? s filter) = lookUpFilter? (s.andThen t) filter
  | none => rfl
  | some f => congrArg some (lookUpFilter_lookUpFilter f)
termination_by structural filter => filter

theorem lookUpQueryMessage_lookUpQueryMessage : (m : QueryMessage Value) →
    lookUpQueryMessage t (lookUpQueryMessage s m) = lookUpQueryMessage (s.andThen t) m
  | ⟨_, _, filter, _, _, _, _, _⟩ => by
      simp only [lookUpQueryMessage, lookUpFilter?_lookUpFilter? filter]
termination_by structural m => m

theorem lookUpMessage_lookUpMessage : (m : Message Value) →
    lookUpMessage t (lookUpMessage s m) = lookUpMessage (s.andThen t) m
  | .propertyFilter m =>
      congrArg Message.propertyFilter (lookUpPropertyFilter_lookUpPropertyFilter m)
  | .compositeFilter ⟨op, filters, mark⟩ => by
      simp only [lookUpMessage, lookUpFilters_lookUpFilters filters]
  | .filter m => congrArg Message.filter (lookUpFilter_lookUpFilter m)
  | .query m => congrArg Message.query (lookUpQueryMessage_lookUpQueryMessage m)
  | .request ⟨partition, query⟩ => by
      simp only [lookUpMessage, lookUpQueryMessage_lookUpQueryMessage query]
  | .bare | .kindExpression _ | .propertyReference _ | .projection _ => rfl
  | .propertyOrder _ | .partitionId _ => rfl
termination_by structural m => m

end

end

/-! ## Items -/

theorem lookUpItems_eq_map (s : Sight) (items : List Value) :
    lookUpItems s items = items.map (·.lookUp s) := by
  induction items with
  | nil => rfl
  | cons v rest ih => rw [lookUpItems, ih, List.map_cons]

theorem lookUpItems_append (s : Sight) (items items' : List Value) :
    lookUpItems s (items ++ items') = lookUpItems s items ++ lookUpItems s items' := by
  rw [lookUpItems_eq_map, lookUpItems_eq_map, lookUpItems_eq_map, List.map_append]

theorem lookUpMapping_eq_map (s : Sight) (entries : List (String × Value)) :
    lookUpMapping s entries = entries.map fun e => (e.1, e.2.lookUp s) := by
  induction entries with
  | nil => rfl
  | cons e rest ih => rw [lookUpMapping, ih, List.map_cons]

theorem lookUpEntries_eq_map (s : Sight) (entries : List (Value × Value)) :
    lookUpEntries s entries = entries.map fun e => (e.1.lookUp s, e.2.lookUp s) := by
  induction entries with
  | nil => rfl
  | cons e rest ih => rw [lookUpEntries, ih, List.map_cons]

theorem lookUpFilters_eq_map (s : Sight) (filters : List (Filter Value)) :
    lookUpFilters s filters = filters.map (lookUpFilter s) := by
  induction filters with
  | nil => rfl
  | cons f rest ih => rw [lookUpFilters, ih, List.map_cons]

theorem Value.lookUp_ofTexts (s : Sight) (entries : List (String × Value)) :
    (ofTexts entries).lookUp s = ofTexts (lookUpMapping s entries) := by
  rw [ofTexts, lookUp, lookUpEntries_eq_map, lookUpMapping_eq_map, ofTexts, List.map_map,
    List.map_map]
  rfl

theorem Value.lookUp_ofText? (s : Sight) (text : Option String) :
    (ofText? text).lookUp s = ofText? text := by
  cases text <;> rfl

theorem Value.lookUp_ofInt? (s : Sight) (n : Option Int) : (ofInt? n).lookUp s = ofInt? n := by
  cases n <;> rfl

/-- The fields of a message are looked up with it. -/
theorem Message.fields_lookUpMessage (s : Sight) (m : Message Value) :
    (lookUpMessage s m).fields = lookUpMapping s m.fields := by
  cases m with
  | propertyFilter m =>
      rw [lookUpMessage, lookUpPropertyFilter]
      simp only [fields, lookUpMapping, Value.lookUp_ofTexts]
      rfl
  | compositeFilter m =>
      rw [lookUpMessage]
      simp only [fields, lookUpMapping, Value.lookUp, lookUpItems_eq_map, lookUpFilters_eq_map,
        List.map_map]
      rfl
  | filter f => cases f <;> rfl
  | query m =>
      rw [lookUpMessage, lookUpQueryMessage]
      simp only [fields, lookUpMapping, Value.lookUp, lookUpItems_eq_map, List.map_map,
        Value.lookUp_ofInt?]
      cases m.filter <;> cases m.startCursor <;> rfl
  | partitionId m =>
      show (Message.partitionId m).fields = _
      simp only [fields, lookUpMapping, Value.lookUp_ofText?]
  | _ => rfl

/-- Looking at a value that has items is looking at them. -/
theorem Value.items?_lookUp (ws : Workspace) (steps : Nat) (way : List (Nat × QueryPart))
    {v : Value} (placeless : v.place? = Option.none) :
    (v.lookUp (ws.sight steps way)).items? = v.items?.map (lookUpItems (ws.sight steps way)) := by
  cases v with
  | object => cases placeless
  | query id state => rcases ws.lookUp_query steps way id state with h | ⟨q, h⟩ <;> rw [h] <;> rfl
  | text s | member m | bytes b => simp [items?, content, lookUp, lookUpItems_eq_map]
  | mapping entries =>
      simp [items?, content, lookUp, lookUpItems_eq_map, lookUpEntries_eq_map]
  | message m =>
      simp only [items?, content, lookUp, Message.fieldItems, Message.fields_lookUpMessage,
        lookUpMapping_eq_map, lookUpItems_eq_map, Option.map_some, List.map_map]
      rfl
  | _ => rfl

/-! ## What is referred to -/

/-- A builder of which nothing is seen. -/
def Query.unseen : QueryState Value := ⟨.none, [], [], [], [], [], .none, .none, .none⟩

/-- How references are looked up to see what they refer to, and nothing of it. Values that are the
same under `Value.lookUp` with it are the same objects, whatever is at their places. -/
def Sight.references : Sight where
  place := fun number _ => .object number fun _ => .none
  builder := fun id _ => .query id Query.unseen

/-- What a value refers to does not depend on how it has been looked at, so `Sight.references` may
be used before or after a `Workspace.sight`. -/
theorem Value.references_lookUp (ws : Workspace) (steps : Nat) (way : List (Nat × QueryPart))
    (v : Value) :
    (v.lookUp (ws.sight (steps + 1) way)).lookUp .references = v.lookUp .references := by
  have same : (ws.sight (steps + 1) way).andThen .references = .references := by
    rw [Sight.andThen, Sight.references, Sight.mk.injEq]
    refine ⟨rfl, ?_⟩
    funext id state
    dsimp only [Workspace.sight]
    cases ws.builders[id]? <;> rfl
  rw [lookUp_lookUp, same]

/-! ## Values without builders -/

namespace Workspace

/-- A reference is found in a value, through the places of a workspace. A place can lead to a
builder, so `Value.refs` alone does not tell. -/
inductive Finds (ws : Workspace) : Value → Ref → Prop where
  | here {v : Value} {r : Ref} (among : r ∈ v.refs) : Finds ws v r
  | place {v w : Value} {r : Ref} {number : Nat} {look : Unit → Value}
      (among : .place number look ∈ v.refs) (found : ws.places[number]? = some w)
      (inside : Finds ws w r) : Finds ws v r

/-- No builder is found in a value, in the sense of `Finds`. -/
def Builderless (ws : Workspace) (v : Value) : Prop := ∀ id state, ¬ ws.Finds v (.builder id state)

theorem builderless_of_refs_eq_nil (ws : Workspace) {v : Value} (h : v.refs = []) :
    ws.Builderless v := by
  intro id state finds
  cases finds with
  | here among | place among _ _ =>
      rw [h] at among
      cases among

/-- A value without builders shows the same on all ways. Ways only keep builders from being looked
up inside of themselves, and this is what lets a copy and its original, which are looked up on
different ways, be compared. -/
theorem Builderless.lookUp_eq {ws : Workspace} {v : Value} (h : ws.Builderless v) (steps : Nat)
    (way way' : List (Nat × QueryPart)) :
    v.lookUp (ws.sight steps way) = v.lookUp (ws.sight steps way') := by
  induction steps generalizing v way way' with
  | zero => rfl
  | succ steps ih =>
      refine v.lookUp_congr fun r among => ?_
      cases r with
      | builder id state => exact absurd (.here among) (h id state)
      | place number look =>
          refine congrArg (Value.object number) ?_
          funext _
          cases found : ws.places[number]? with
          | none => rfl
          | some w =>
              have builderless : ws.Builderless w :=
                fun id state inside => h id state (.place among found inside)
              exact ih builderless way way'

end Workspace

end EntityQuery
