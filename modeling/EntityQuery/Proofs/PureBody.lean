import EntityQuery.Proofs.Grammar
import EntityQuery.Proofs.Lossless

/-!
# What is in a body

Two encoders meet in the body of a message. That of messages writes fields under their wire names
and leaves out what is absent; that of the mappings in property filters writes whatever is there,
nothing included.

* `Value.inside?` goes to a place inside of a value, and `Value.inside?_encoded` says that encoded
  data has the same places as the data.
* `IsBody` is all that is said of a body, by the mappings of property filters that are in it:
  `isBody_encodedMapping` is about such a mapping, and `isBody_ofTexts` and `isBody_list` put bodies
  together.
* `Message.mappings` and `Message.queries` are the mappings and the compiled queries in a message,
  with their places in its body, and `Message.body_pure` says what there is at all other places.
-/

namespace EntityQuery

/-! ## Places in values -/

/-- What is at a place inside of a value. -/
def Value.inside? : Value → Place → Option Value
  | v, [] => some v
  | v, .key name :: rest =>
      match v.content with
      | .mapping entries => (Entries.get? name entries).bind (·.inside? rest)
      | _ => Option.none
  | v, .index i :: rest =>
      match v.content with
      | .list items | .tuple items =>
          if 0 ≤ i then (items[i.toNat]?).bind (·.inside? rest) else Option.none
      | _ => Option.none

/-- Nothing, and numbers that are not finite, of which nothing is left: the values that `encoded`
takes to `.none`. -/
def Value.IsBlank (v : Value) : Prop :=
  v.content = .none ∨ ∃ x, v.content = .float x ∧ x.isFinite = false

/-- JSON data: nothing, truth values, numbers, of which the floating-point ones are finite, texts,
lists, and mappings from texts. -/
inductive Value.IsPure : Value → Prop where
  | none : IsPure .none
  | bool (b : Bool) : IsPure (.bool b)
  | int (n : Int) : IsPure (.int n)
  | float {x : Binary64} (finite : x.isFinite = true) : IsPure (.float x)
  | text (s : String) : IsPure (.text s)
  | list {items : List Value} (parts : ∀ v ∈ items, IsPure v) : IsPure (.list items)
  | mapping {fields : List (String × Value)} (nodup : (fields.map Prod.fst).Nodup)
      (parts : ∀ e ∈ fields, IsPure e.2) : IsPure (.ofTexts fields)

theorem Value.inside?_content (v : Value) (step : Place.Step) (rest : Place) :
    v.content.inside? (step :: rest) = v.inside? (step :: rest) := by
  cases step <;> simp only [inside?, content_content]

theorem Value.inside?_ofTexts_key (fields : List (String × Value)) (name : String) (rest : Place) :
    (ofTexts fields).inside? (.key name :: rest) = (fields.lookup name).bind (·.inside? rest) := by
  rw [← Entries.get?_plainFields]
  rfl

/-- In a mapping in which no text comes twice, every value is found under its text. -/
theorem lookup_eq_some_iff {fields : List (String × Value)} (nodup : (fields.map Prod.fst).Nodup)
    {name : String} {v : Value} : fields.lookup name = some v ↔ (name, v) ∈ fields := by
  refine ⟨mem_of_lookup, fun among => ?_⟩
  have same : ∀ b ∈ fields, (name == b.1) = true ↔ b.1 = (name, v).1 := fun b _ =>
    beq_iff_eq.trans eq_comm
  rw [lookup_eq_find?, find?_of_nodup same nodup among]
  rfl

/-! ## Places in encoded data -/

theorem Value.IsData.content {inside : List Nat} {v : Value} (h : v.IsData inside) :
    ∃ inside', v.content.IsData inside' := by
  induction h with
  | object _ _ ih => exact ih
  | none => exact ⟨[], .none⟩
  | bool b => exact ⟨[], .bool b⟩
  | int i => exact ⟨[], .int i⟩
  | float x => exact ⟨[], .float x⟩
  | text s => exact ⟨[], .text s⟩
  | bytes b => exact ⟨[], .bytes b⟩
  | member m => exact ⟨[], .member m⟩
  | list parts _ => exact ⟨_, .list parts⟩
  | tuple parts _ => exact ⟨_, .tuple parts⟩
  | mapping keys parts _ => exact ⟨_, .mapping keys parts⟩

theorem encodedItems_eq_map (items : List Value) :
    encodedItems items = items.map Value.encoded := by
  induction items with
  | nil => rfl
  | cons v rest ih => rw [encodedItems, ih, List.map_cons]

/-- What is encoded for a text is the encoded form of what `Entries.get?` finds for it.
`List.lookup` on the left, as bodies are mappings from texts. -/
theorem lookup_encodedEntries {entries : List (Value × Value)}
    (texts : ∀ e ∈ entries, e.1.asText?.isSome = true) (name : String) :
    (encodedEntries entries).lookup name = (Entries.get? name entries).map Value.encoded := by
  induction entries with
  | nil => rfl
  | cons e rest ih =>
      obtain ⟨k, v⟩ := e
      obtain ⟨isText, others⟩ := List.forall_mem_cons.mp texts
      have same : k.asText? = some k.textOf := Value.asText?_eq_some_textOf isText
      rw [encodedEntries, Entries.get?, same, List.lookup_cons, ih others]
      by_cases found : k.textOf = name
      · simp [found]
      · have differ : (name == k.textOf) = false := beq_false_of_ne (Ne.symm found)
        simp [found, differ]

/-- Encoded data has the same places as the data, and the encoded parts there. So a mapping in a
filter shows up whole in the body, at the same ways. -/
theorem Value.inside?_encoded {inside : List Nat} {v : Value} (h : v.IsData inside) (p : Place) :
    v.encoded.inside? p = (v.inside? p).map Value.encoded := by
  induction p generalizing v inside with
  | nil => rfl
  | cons step rest ih =>
      obtain ⟨inside', data⟩ := h.content
      -- What is seen has no place, so the step is taken in a list or a mapping, or not at all.
      have noObject := place?_content v
      rw [← encoded_content, ← inside?_content v]
      generalize v.content = w at data noObject
      have items : ∀ {items : List Value}, (∀ v ∈ items, v.IsData inside') → ∀ i : Nat,
          ((items.map Value.encoded)[i]?).bind (·.inside? rest) =
            ((items[i]?).bind (·.inside? rest)).map Value.encoded := by
        intro items parts i
        rw [List.getElem?_map, Option.map_bind, Option.bind_map]
        refine Option.bind_congr fun v at_i => ?_
        exact ih (parts v (List.mem_of_getElem? at_i))
      cases data with
      | list parts | tuple parts =>
          cases step with
          | key name => rfl
          | index i =>
              simp only [encoded, inside?, content, encodedItems_eq_map, items parts]
              split <;> rfl
      | mapping keys parts =>
          cases step with
          | index i => rfl
          | key name =>
              rw [encoded, inside?_ofTexts_key, lookup_encodedEntries keys.texts]
              simp only [inside?, content]
              rw [Option.map_bind, Option.bind_map]
              refine Option.bind_congr fun v found => ?_
              obtain ⟨e, among, rfl⟩ := Entries.mem_of_get? found
              exact ih (parts e among)
      | float x =>
          rw [encoded]
          split <;> cases step <;> rfl
      | object => cases noObject
      | _ => cases step <;> rfl

/-- Nothing is left of what is blank, and of nothing else. -/
theorem Value.encoded_eq_none_iff {v : Value} : v.encoded = .none ↔ v.IsBlank := by
  rw [← encoded_content, IsBlank]
  have noObject := place?_content v
  generalize v.content = w at noObject
  cases w with
  | object number look => cases noObject
  | float x => cases finite : x.isFinite <;> simp [encoded, finite]
  | _ => simp [encoded, ofTexts]

theorem Value.IsData.isPure {inside : List Nat} {v : Value} (h : v.IsData inside) :
    v.encoded.IsPure := by
  induction h with
  | none => exact .none
  | bool b => exact .bool b
  | int i => exact .int i
  | float x =>
      rw [encoded]
      split
      · next finite => exact .float finite
      · exact .none
  | text s => exact .text s
  | bytes b => exact .text _
  | member m => exact .text _
  | list _ ih | tuple _ ih =>
      rw [encoded, encodedItems_eq_map]
      exact .list (List.forall_mem_map.mpr ih)
  | mapping keys _ ih =>
      rw [encoded, encodedEntries_eq]
      refine .mapping ?_ ?_
      · rw [encodedMapping, textFields, List.map_map, List.map_map]
        exact keys.nodup
      · rw [encodedMapping, textFields, List.map_map, List.forall_mem_map]
        exact ih
  | object _ _ ih => exact ih

/-! ## Bodies -/

namespace Field

/-- The fields of all classes. -/
def all : List Spelling :=
  [name, property, direction, op, value, filters, propertyFilter, compositeFilter, kinds,
    projections, filter, orders, distinctOn, startCursor, limit, offset, projectId, namespaceId,
    partitionId, query]

end Field

/-- A value is the body of something that has the given mappings in it, at places in the body. There
is nothing in the body but where the mapping has something blank (`Value.IsBlank`), and other keys
than those of the mappings are wire names. The invariant that all bodies are described by, one lemma
per way to put them together. -/
structure IsBody (has : Place → List (String × Value) → Prop) (b : Value) : Prop where
  pure : b.IsPure
  held : ∀ q mapping, has q mapping → b.inside? q = some (.ofTexts (encodedMapping mapping))
  nothing : ∀ p, b.inside? p = some .none ↔ ∃ q mapping r w, has q mapping ∧ p = q ++ r ∧
    (Value.ofTexts mapping).inside? r = some w ∧ w.IsBlank
  names : ∀ p name w, b.inside? (p ++ [.key name]) = some w →
    (∀ q mapping, has q mapping → ¬ q <+: p) → name ∈ Field.all.map Spelling.wire

section

variable {has has' : Place → List (String × Value) → Prop} {b : Value}

theorem IsBody.congr (h : IsBody has b) (same : ∀ q mapping, has q mapping ↔ has' q mapping) :
    IsBody has' b := by
  obtain rfl : has = has' := funext fun q => funext fun mapping => propext (same q mapping)
  exact h

/-- A value is a body if the values one step inside of it are, and the keys to them are wire names.
The common step of `isBody_list` and `isBody_ofTexts`. -/
theorem isBody_of_children (has : Place.Step → Place → List (String × Value) → Prop)
    (child : Place.Step → Option Value) (pure : b.IsPure) (present : b ≠ .none)
    (inside : ∀ step rest, b.inside? (step :: rest) = (child step).bind (·.inside? rest))
    (named : ∀ name c, child (.key name) = some c → name ∈ Field.all.map Spelling.wire)
    (each : ∀ step c, child step = some c → IsBody (has step) c) :
    IsBody (fun q mapping => ∃ step c q', child step = some c ∧ q = step :: q' ∧
      has step q' mapping) b := by
  -- Whatever is located is at the end of a first step, into a child, and of a rest that is up to
  -- the child. Only the place of the whole has no first step.
  refine ⟨pure, ?_, fun p => ?_, fun p name w found outside => ?_⟩
  · intro q mapping ⟨step, c, q', isChild, at_q, within⟩
    rw [at_q, inside, isChild]
    exact (each step c isChild).held q' mapping within
  · constructor
    · intro nothing
      cases p with
      | nil => exact absurd (Option.some.inj nothing) present
      | cons step rest =>
          rw [inside] at nothing
          obtain ⟨c, isChild, nothing⟩ := Option.bind_eq_some_iff.mp nothing
          obtain ⟨q, mapping, r, w, within, rfl, found, blank⟩ :=
            ((each step c isChild).nothing rest).mp nothing
          exact ⟨step :: q, mapping, r, w, ⟨step, c, q, isChild, rfl, within⟩, rfl, found, blank⟩
    · intro located
      obtain ⟨q, mapping, r, w, ⟨step, c, q', isChild, at_q, within⟩, at_p, found, blank⟩ := located
      rw [at_p, at_q, List.cons_append, inside, isChild]
      exact ((each step c isChild).nothing _).mpr ⟨q', mapping, r, w, within, rfl, found, blank⟩
  · cases p with
    | nil =>
        rw [List.nil_append, inside] at found
        obtain ⟨c, isChild, -⟩ := Option.bind_eq_some_iff.mp found
        exact named name c isChild
    | cons step rest =>
        rw [List.cons_append, inside] at found
        obtain ⟨c, isChild, found⟩ := Option.bind_eq_some_iff.mp found
        refine (each step c isChild).names rest name w found fun q mapping within behind => ?_
        exact outside (step :: q) mapping ⟨step, c, q, isChild, rfl, within⟩
          ((List.prefix_cons_inj step).mpr behind)

theorem isBody_atom (atom : (∃ s, b = .text s) ∨ ∃ n, b = .int n) :
    IsBody (fun _ _ => False) b := by
  have body : IsBody _ b := isBody_of_children (fun _ _ _ => False) (fun _ => none)
    (by obtain ⟨s, rfl⟩ | ⟨n, rfl⟩ := atom <;> constructor)
    (by obtain ⟨s, rfl⟩ | ⟨n, rfl⟩ := atom <;> exact Value.noConfusion)
    (by obtain ⟨s, rfl⟩ | ⟨n, rfl⟩ := atom <;> intro step rest <;> cases step <;> rfl)
    (fun _ _ none => by cases none) (fun _ _ none => by cases none)
  exact body.congr (by simp)

/-- A mapping of data is encoded to a body that is all mapping. -/
theorem isBody_encodedMapping {value : List (String × Value)} (nodup : (value.map Prod.fst).Nodup)
    (data : IsDataMapping value) :
    IsBody (fun q mapping => q = [] ∧ mapping = value) (.ofTexts (encodedMapping value)) := by
  have isData := Value.isData_ofTexts nodup data
  rw [← Value.encoded_ofTexts]
  refine ⟨isData.isPure, ?_, fun p => ?_, ?_⟩
  · intro q mapping ⟨here, same⟩
    rw [here, same, Value.encoded_ofTexts]
    rfl
  · rw [Value.inside?_encoded isData, Option.map_eq_some_iff]
    constructor
    · intro located
      obtain ⟨w, found, nothing⟩ := located
      exact ⟨[], value, p, w, ⟨rfl, rfl⟩, rfl, found, Value.encoded_eq_none_iff.mp nothing⟩
    · intro located
      obtain ⟨q, mapping, r, w, ⟨here, same⟩, at_p, found, blank⟩ := located
      subst here same at_p
      exact ⟨w, found, Value.encoded_eq_none_iff.mpr blank⟩
  · intro p name w _ outside
    exact absurd List.nil_prefix (outside [] value ⟨rfl, rfl⟩)

end

theorem isBody_list (has : Nat → Place → List (String × Value) → Prop) {items : List Value}
    (each : ∀ i b, items[i]? = some b → IsBody (has i) b) :
    IsBody (fun q mapping => ∃ (i : Nat) (b : Value) (q' : Place), items[i]? = some b ∧
      q = .index i :: q' ∧ has i q' mapping) (.list items) := by
  let child : Place.Step → Option Value
    | .index i => if 0 ≤ i then items[i.toNat]? else none
    | .key _ => none
  let hasAt : Place.Step → Place → List (String × Value) → Prop
    | .index i => has i.toNat
    | .key _ => fun _ _ => False
  have child_iff : ∀ step c, child step = some c ↔
      ∃ i : Nat, step = .index i ∧ items[i]? = some c := by
    intro step c
    cases step with
    | key name => simp [child]
    | index i =>
        cases i with
        | ofNat i => simp [child]
        | negSucc i => simp [child]
  have pure : (Value.list items).IsPure := by
    refine .list fun v among => ?_
    obtain ⟨i, at_i⟩ := List.mem_iff_getElem?.mp among
    exact (each i v at_i).pure
  refine (isBody_of_children hasAt child pure Value.noConfusion ?_ ?_ ?_).congr ?_
  · intro step rest
    cases step with
    | key name => rfl
    | index i =>
        simp only [Value.inside?, Value.content, child]
        split <;> rfl
  · intro name c isChild
    cases isChild
  · intro step c isChild
    obtain ⟨i, rfl, at_i⟩ := (child_iff step c).mp isChild
    exact each i c at_i
  · intro q mapping
    simp only [child_iff]
    constructor
    · intro located
      obtain ⟨step, c, q', ⟨i, rfl, at_i⟩, at_q, within⟩ := located
      exact ⟨i, c, q', at_i, at_q, within⟩
    · intro located
      obtain ⟨i, c, q', at_i, at_q, within⟩ := located
      exact ⟨.index i, c, q', ⟨i, rfl, at_i⟩, at_q, within⟩

/-- A mapping from wire names to bodies is a body. -/
theorem isBody_ofTexts (has : String → Place → List (String × Value) → Prop)
    {fields : List (String × Value)} (nodup : (fields.map Prod.fst).Nodup)
    (wire : fields.map Prod.fst ⊆ Field.all.map Spelling.wire)
    (each : ∀ e ∈ fields, IsBody (has e.1) e.2) :
    IsBody (fun q mapping => ∃ e ∈ fields, ∃ q', q = .key e.1 :: q' ∧ has e.1 q' mapping)
      (.ofTexts fields) := by
  let child : Place.Step → Option Value
    | .index _ => none
    | .key name => fields.lookup name
  let hasAt : Place.Step → Place → List (String × Value) → Prop
    | .index _ => fun _ _ => False
    | .key name => has name
  have child_iff : ∀ step c, child step = some c ↔ ∃ e ∈ fields, step = .key e.1 ∧ e.2 = c := by
    intro step c
    cases step with
    | index i => simp [child]
    | key name =>
        rw [show child (.key name) = fields.lookup name from rfl, lookup_eq_some_iff nodup]
        constructor
        · exact fun among => ⟨(name, c), among, rfl, rfl⟩
        · intro located
          obtain ⟨e, among, ⟨⟩, rfl⟩ := located
          exact among
  have pure : (Value.ofTexts fields).IsPure := .mapping nodup fun e among => (each e among).pure
  refine (isBody_of_children hasAt child pure Value.noConfusion ?_ ?_ ?_).congr ?_
  · intro step rest
    cases step with
    | key name => exact Value.inside?_ofTexts_key fields name rest
    | index i => rfl
  · intro name c isChild
    obtain ⟨e, among, ⟨⟩, -⟩ := (child_iff (.key name) c).mp isChild
    exact wire (List.mem_map_of_mem among)
  · intro step c isChild
    obtain ⟨e, among, rfl, rfl⟩ := (child_iff step c).mp isChild
    exact each e among
  · intro q mapping
    simp only [child_iff]
    constructor
    · intro located
      obtain ⟨step, c, q', ⟨e, among, rfl, -⟩, at_q, within⟩ := located
      exact ⟨e, among, q', at_q, within⟩
    · intro located
      obtain ⟨e, among, q', at_q, within⟩ := located
      exact ⟨.key e.1, e.2, q', ⟨e, among, rfl, rfl⟩, at_q, within⟩

section

variable {fields : List (String × Value)} (nodup : (fields.map Prod.fst).Nodup)
  (wire : fields.map Prod.fst ⊆ Field.all.map Spelling.wire)

include nodup wire

/-- A record of which one field at most, the `carrier`, has mappings in it, as the encoded form of a
message is. -/
theorem isBody_record (has : Place → List (String × Value) → Prop) (carrier : String)
    (there : carrier ∈ fields.map Prod.fst ∨ ∀ q mapping, ¬ has q mapping)
    (each : ∀ e ∈ fields, (e.1 ≠ carrier → IsBody (fun _ _ => False) e.2) ∧
      (e.1 = carrier → IsBody has e.2)) :
    IsBody (fun q mapping => ∃ q', q = .key carrier :: q' ∧ has q' mapping) (.ofTexts fields) := by
  refine (isBody_ofTexts (fun name q mapping => name = carrier ∧ has q mapping) nodup wire
    fun e among => ?_).congr fun q mapping => ?_
  · by_cases carries : e.1 = carrier
    · exact ((each e among).2 carries).congr (by simp [carries])
    · exact ((each e among).1 carries).congr (by simp [carries])
  · constructor
    · intro located
      obtain ⟨e, among, q', at_q, rfl, within⟩ := located
      exact ⟨q', at_q, within⟩
    · intro located
      obtain ⟨q', at_q, within⟩ := located
      obtain present | never := there
      · obtain ⟨e, among, rfl⟩ := List.mem_map.mp present
        exact ⟨e, among, q', at_q, rfl, within⟩
      · exact absurd within (never q' mapping)

theorem isBody_plain (each : ∀ e ∈ fields, IsBody (fun _ _ => False) e.2) :
    IsBody (fun _ _ => False) (.ofTexts fields) :=
  (isBody_ofTexts (fun _ _ _ => False) nodup wire each).congr (by simp)

end

/-! ## Messages -/

/-- Something at a place, one step further out. -/
def underStep {α : Type} (step : Place.Step) (l : Place × α) : Place × α := (step :: l.1, l.2)

theorem mem_map_underStep {α : Type} {step : Place.Step} {located : List (Place × α)} {q : Place}
    {a : α} : (q, a) ∈ located.map (underStep step) ↔ ∃ q', q = step :: q' ∧ (q', a) ∈ located := by
  simp only [List.mem_map, underStep, Prod.ext_iff]
  constructor
  · intro under
    obtain ⟨⟨q', a'⟩, among, rfl, rfl⟩ := under
    exact ⟨q', rfl, among⟩
  · intro under
    obtain ⟨q', rfl, among⟩ := under
    exact ⟨(q', a), among, rfl, rfl⟩

mutual

/-- The mappings in a filter, with their places in its body. -/
def Filter.mappings : Filter Value → List (Place × List (String × Value))
  | .property m => [([.key Field.propertyFilter.wire, .key Field.value.wire], m.value)]
  | .composite _ filters _ =>
      ((mappingsOfFilters 0 filters).map (underStep (.key Field.filters.wire))).map
        (underStep (.key Field.compositeFilter.wire))
termination_by structural f => f

/-- The mappings in filters, the first of which has the given position. -/
def mappingsOfFilters (index : Nat) : List (Filter Value) → List (Place × List (String × Value))
  | [] => []
  | f :: rest => f.mappings.map (underStep (.index index)) ++ mappingsOfFilters (index + 1) rest
termination_by structural filters => filters

end

/-- The mappings in a compiled query, with their places in its body. -/
def QueryMessage.mappings (m : QueryMessage Value) : List (Place × List (String × Value)) :=
  (m.filter.elim [] Filter.mappings).map (underStep (.key Field.filter.wire))

/-- The mappings in a message, with their places in its body. -/
def Message.mappings : Message Value → List (Place × List (String × Value))
  | .propertyFilter m => [([.key Field.value.wire], m.value)]
  | .compositeFilter m => (mappingsOfFilters 0 m.filters).map (underStep (.key Field.filters.wire))
  | .filter f => f.mappings
  | .query m => m.mappings
  | .request m => m.query.mappings.map (underStep (.key Field.query.wire))
  | _ => []

/-- The compiled queries in a message, with their places in its body. -/
def Message.queries : Message Value → List (Place × QueryMessage Value)
  | .query m => [([], m)]
  | .request m => [([.key Field.query.wire], m.query)]
  | _ => []

/-- A mapping from texts to data, no two texts the same. -/
structure IsPlainMapping (value : List (String × Value)) : Prop where
  nodup : (value.map Prod.fst).Nodup
  values : IsDataMapping value

theorem mem_mappingsOfFilters {index : Nat} {filters : List (Filter Value)} {q : Place}
    {mapping : List (String × Value)} :
    (q, mapping) ∈ mappingsOfFilters index filters ↔ ∃ (i : Nat) (f : Filter Value) (q' : Place),
      filters[i]? = some f ∧ q = .index ((index + i : Nat) : Int) :: q' ∧
        (q', mapping) ∈ f.mappings := by
  induction filters generalizing index with
  | nil => simp [mappingsOfFilters]
  | cons f rest ih =>
      rw [mappingsOfFilters, List.mem_append, mem_map_underStep, ih]
      constructor
      · intro located
        obtain ⟨q', rfl, among⟩ | ⟨i, g, q', at_i, rfl, among⟩ := located
        · exact ⟨0, f, q', rfl, rfl, among⟩
        · exact ⟨i + 1, g, q', at_i, by rw [Nat.add_assoc, Nat.add_comm 1 i], among⟩
      · intro located
        obtain ⟨i, g, q', at_i, rfl, among⟩ := located
        cases i with
        | zero =>
            cases at_i
            exact .inl ⟨q', rfl, among⟩
        | succ i => exact .inr ⟨i, g, q', at_i, by rw [Nat.add_assoc, Nat.add_comm 1 i], among⟩

theorem isBody_plainList {items : List Value} (each : ∀ v ∈ items, IsBody (fun _ _ => False) v) :
    IsBody (fun _ _ => False) (.list items) :=
  (isBody_list (fun _ _ _ => False) fun _ v at_i =>
    each v (List.mem_of_getElem? at_i)).congr (by simp)

theorem isBody_reference (m : PropertyReference) : IsBody (fun _ _ => False) m.body := by
  refine isBody_plain (show ["name"].Nodup by decide) (show ["name"] ⊆ _ by decide) ?_
  exact List.forall_mem_singleton.mpr (isBody_atom (.inl ⟨_, rfl⟩))

theorem isBody_kind (m : KindExpression) : IsBody (fun _ _ => False) m.body := by
  refine isBody_plain (show ["name"].Nodup by decide) (show ["name"] ⊆ _ by decide) ?_
  exact List.forall_mem_singleton.mpr (isBody_atom (.inl ⟨_, rfl⟩))

theorem isBody_projection (m : Projection) : IsBody (fun _ _ => False) m.body := by
  refine isBody_plain (show ["property"].Nodup by decide) (show ["property"] ⊆ _ by decide) ?_
  exact List.forall_mem_singleton.mpr (isBody_reference m.property)

theorem isBody_order (m : PropertyOrder) : IsBody (fun _ _ => False) m.body := by
  refine isBody_plain (show ["property", "direction"].Nodup by decide)
    (show ["property", "direction"] ⊆ _ by decide) (List.forall_mem_cons.mpr ⟨?_, ?_⟩)
  · exact isBody_reference m.property
  · exact List.forall_mem_singleton.mpr (isBody_atom (.inl ⟨_, rfl⟩))

theorem isBody_partition (m : PartitionId) : IsBody (fun _ _ => False) m.body := by
  obtain ⟨projectId, namespaceId⟩ := m
  have text : ∀ s, IsBody (fun _ _ => False) (.text s) := fun s => isBody_atom (.inl ⟨s, rfl⟩)
  cases projectId <;> cases namespaceId
  · exact isBody_plain (show [].Nodup by decide) (show [] ⊆ _ by simp) (List.forall_mem_nil _)
  · exact isBody_plain (show ["namespaceId"].Nodup by decide) (show ["namespaceId"] ⊆ _ by decide)
      (List.forall_mem_singleton.mpr (text _))
  · exact isBody_plain (show ["projectId"].Nodup by decide) (show ["projectId"] ⊆ _ by decide)
      (List.forall_mem_singleton.mpr (text _))
  · exact isBody_plain (show ["projectId", "namespaceId"].Nodup by decide)
      (show ["projectId", "namespaceId"] ⊆ _ by decide)
      (List.forall_mem_cons.mpr ⟨text _, List.forall_mem_singleton.mpr (text _)⟩)

theorem isBody_propertyFilter {m : PropertyFilter Value} (h : IsPlainMapping m.value) :
    IsBody (fun q mapping => (q, mapping) ∈ (Message.propertyFilter m).mappings) m.encoded := by
  have record : IsBody (fun q mapping => ∃ q', q = .key "value" :: q' ∧ q' = [] ∧ mapping = m.value)
      m.encoded := by
    refine isBody_record ?_ ?_ _ "value" ?_ (List.forall_mem_cons.mpr ⟨⟨fun _ => ?_, ?_⟩,
      List.forall_mem_cons.mpr ⟨⟨fun _ => ?_, ?_⟩,
        List.forall_mem_singleton.mpr ⟨?_, fun _ => ?_⟩⟩⟩)
    · exact (show ["property", "op", "value"].Nodup by decide)
    · exact (show ["property", "op", "value"] ⊆ _ by decide)
    · exact .inl (show "value" ∈ ["property", "op", "value"] by decide)
    · exact isBody_reference m.property
    · exact fun same => absurd same (show ¬ "property" = "value" by decide)
    · exact isBody_atom (.inl ⟨_, rfl⟩)
    · exact fun same => absurd same (show ¬ "op" = "value" by decide)
    · exact fun other => absurd rfl other
    · exact isBody_encodedMapping h.nodup h.values
  exact record.congr fun q mapping => by simp [Message.mappings, Field.value, Spelling.same]

/-- The body of a combination has the mappings of its parts, by their numbers, behind the name of
the list. -/
theorem isBody_combination (op : CompositeOperator) {filters : List (Filter Value)}
    (each : ∀ f ∈ filters, IsBody (fun q mapping => (q, mapping) ∈ f.mappings) f.encoded) :
    IsBody (fun q mapping =>
        (q, mapping) ∈ (mappingsOfFilters 0 filters).map (underStep (.key Field.filters.wire)))
      (CompositeFilter.bodyOf op (encodedFilters filters)) := by
  have parts : IsBody (fun q mapping => (q, mapping) ∈ mappingsOfFilters 0 filters)
      (.list (encodedFilters filters)) := by
    rw [encodedFilters_eq_map]
    refine (isBody_list (fun i q mapping => ∃ f, filters[i]? = some f ∧ (q, mapping) ∈ f.mappings)
      fun i b at_i => ?_).congr fun q mapping => ?_
    · rw [List.getElem?_map] at at_i
      obtain ⟨f, part, rfl⟩ := Option.map_eq_some_iff.mp at_i
      exact (each f (List.mem_of_getElem? part)).congr (by simp [part])
    · rw [mem_mappingsOfFilters]
      simp only [List.getElem?_map, Option.map_eq_some_iff, Nat.zero_add]
      constructor
      · intro located
        obtain ⟨i, b, q', -, at_q, f, at_i, among⟩ := located
        exact ⟨i, f, q', at_i, at_q, among⟩
      · intro located
        obtain ⟨i, f, q', at_i, at_q, among⟩ := located
        exact ⟨i, f.encoded, q', ⟨f, at_i, rfl⟩, at_q, f, at_i, among⟩
  have record : IsBody (fun q mapping => ∃ q', q = .key "filters" :: q' ∧
      (q', mapping) ∈ mappingsOfFilters 0 filters)
      (CompositeFilter.bodyOf op (encodedFilters filters)) := by
    refine isBody_record ?_ ?_ _ "filters" ?_ (List.forall_mem_cons.mpr ⟨⟨fun _ => ?_, ?_⟩,
      List.forall_mem_singleton.mpr ⟨fun other => absurd rfl other, fun _ => parts⟩⟩)
    · exact (show ["op", "filters"].Nodup by decide)
    · exact (show ["op", "filters"] ⊆ _ by decide)
    · exact .inl (show "filters" ∈ ["op", "filters"] by decide)
    · exact isBody_atom (.inl ⟨_, rfl⟩)
    · exact fun same => absurd same (show ¬ "op" = "filters" by decide)
  exact record.congr fun q mapping => mem_map_underStep.symm

/-- The body of a filter of data has the mappings of the filter in it, and is otherwise made of
texts and lists. By induction on the filter, with `isBody_combination` for combinations. -/
theorem isBody_filter {f : Filter Value} (h : f.Holds IsPlainMapping) :
    IsBody (fun q mapping => (q, mapping) ∈ f.mappings) f.encoded := by
  -- A filter is a record with its only part.
  have single : ∀ {has : Place → List (String × Value) → Prop} {field : Spelling} {b : Value},
      field.wire ∈ Field.all.map Spelling.wire → IsBody has b →
      IsBody (fun q mapping => ∃ q', q = .key field.wire :: q' ∧ has q' mapping)
        (.ofTexts [(field.wire, b)]) := by
    intro has field b wire part
    refine isBody_record ?_ ?_ has field.wire (.inl List.mem_cons_self)
      (List.forall_mem_singleton.mpr ⟨fun other => absurd rfl other, fun _ => part⟩)
    · exact List.pairwise_singleton _ _
    · exact List.cons_subset.mpr ⟨wire, List.nil_subset _⟩
  induction h with
  | @property m mapping =>
      refine (single (show Field.propertyFilter.wire ∈ _ by decide)
        (isBody_propertyFilter mapping)).congr fun q mapping => ?_
      simp [Filter.mappings, Message.mappings]
  | @composite op filters mark _ ih =>
      refine (single (show Field.compositeFilter.wire ∈ _ by decide)
        (isBody_combination op ih)).congr fun q mapping => ?_
      exact mem_map_underStep.symm

/-- The names in the body of a compiled query, where optional fields are left out if absent. -/
def QueryMessage.bodyNames (m : QueryMessage Value) : List String :=
  ["kind", "projection"] ++ (m.filter.map fun _ => "filter").toList ++ ["order", "distinctOn"] ++
    (m.startCursor.map fun _ => "startCursor").toList ++ (m.limit.map fun _ => "limit").toList ++
    ["offset"]

theorem QueryMessage.map_fst_bodyFields (m : QueryMessage Value) :
    (m.bodyFields (m.filter.map Filter.encoded)).map Prod.fst = m.bodyNames := by
  obtain ⟨kinds, projections, filter, orders, distinctOn, startCursor, limit, offset⟩ := m
  cases filter <;> cases startCursor <;> cases limit <;> rfl

/-- All names in the body of a compiled query are wire names, from the one list `Field.all`. -/
theorem QueryMessage.bodyNames_subset (m : QueryMessage Value) :
    m.bodyNames ⊆ Field.all.map Spelling.wire := by
  have optional : ∀ {α : Type} (a? : Option α) (name : String),
      (a?.map fun _ => name).toList.Sublist [name] := by
    intro α a? name
    cases a? <;> simp
  have sublist : m.bodyNames.Sublist (["kind", "projection"] ++ ["filter"] ++
      ["order", "distinctOn"] ++ ["startCursor"] ++ ["limit"] ++ ["offset"]) :=
    (((((List.Sublist.refl _).append (optional m.filter _)).append (.refl _)).append
      (optional m.startCursor _)).append (optional m.limit _)).append (.refl _)
  exact List.Subset.trans sublist.subset (by decide)

theorem mem_optionalField {α : Type} {field : Spelling} {body : α → Value} {a? : Option α}
    {e : String × Value} :
    e ∈ optionalField field body a? ↔ ∃ a, a? = some a ∧ e = (field.wire, body a) := by
  cases a? <;> simp [optionalField]

/-- The body of a compiled query has the mappings of its filter in it. -/
theorem isBody_query {m : QueryMessage Value} (h : ∀ f ∈ m.filter, f.Holds IsPlainMapping) :
    IsBody (fun q mapping => (q, mapping) ∈ m.mappings) m.encoded := by
  have nodup := m.nodup_bodyFields (m.filter.map Filter.encoded)
  have wire := m.bodyNames_subset
  rw [← m.map_fst_bodyFields] at wire
  rw [QueryMessage.encoded, QueryMessage.bodyOf_eq]
  refine (isBody_record nodup wire
    (fun q mapping => (q, mapping) ∈ m.filter.elim [] Filter.mappings) "filter" ?_
    fun e among => ?_).congr fun q mapping => mem_map_underStep.symm
  · rw [m.map_fst_bodyFields]
    cases found : m.filter with
    | none => exact .inr (by simp)
    | some f => exact .inl (by simp [QueryMessage.bodyNames, found])
  · -- Only the filter has mappings in it.
    have plain : ∀ {name : String} {b : Value}, name ≠ "filter" → IsBody (fun _ _ => False) b →
        e = (name, b) → (e.1 ≠ "filter" → IsBody (fun _ _ => False) e.2) ∧ (e.1 = "filter" →
          IsBody (fun q mapping => (q, mapping) ∈ m.filter.elim [] Filter.mappings) e.2) := by
      intro name b other body at_name
      subst at_name
      exact ⟨fun _ => body, fun same => absurd same other⟩
    simp only [QueryMessage.bodyFields, List.mem_append, List.mem_cons, List.not_mem_nil, or_false,
      mem_optionalField] at among
    rcases among with (((((at_kind | at_projection) | ⟨f, found, at_filter⟩) |
      at_order | at_distinctOn) | ⟨cursor, -, at_cursor⟩) | ⟨limit, -, at_limit⟩) | at_offset
    · exact plain (by decide) (isBody_plainList (List.forall_mem_map.mpr fun k _ => isBody_kind k))
        at_kind
    · exact plain (by decide)
        (isBody_plainList (List.forall_mem_map.mpr fun p _ => isBody_projection p)) at_projection
    · obtain ⟨g, isFilter, rfl⟩ := Option.map_eq_some_iff.mp found
      subst at_filter
      refine ⟨fun other => absurd rfl other, fun _ => ?_⟩
      exact (isBody_filter (h g isFilter)).congr fun q mapping => by rw [isFilter]; rfl
    · exact plain (by decide) (isBody_plainList (List.forall_mem_map.mpr fun o _ => isBody_order o))
        at_order
    · exact plain (by decide)
        (isBody_plainList (List.forall_mem_map.mpr fun p _ => isBody_reference p)) at_distinctOn
    · exact plain (by decide) (isBody_atom (.inl ⟨_, rfl⟩)) at_cursor
    · exact plain (by decide) (isBody_atom (.inr ⟨_, rfl⟩)) at_limit
    · exact plain (by decide) (isBody_atom (.inr ⟨_, rfl⟩)) at_offset

/-- `encoded` of a message of data is a body with the mappings of the message in it. Every class is
one of the cases above. -/
theorem isBody_message {m : Message Value} (h : m.Holds IsPlainMapping) :
    IsBody (fun q mapping => (q, mapping) ∈ m.mappings) m.encoded := by
  have leaf : ∀ {b : Value}, IsBody (fun _ _ => False) b →
      IsBody (fun q mapping => (q, mapping) ∈ ([] : List (Place × List (String × Value)))) b :=
    fun body => body.congr (by simp)
  cases m with
  | bare =>
      exact leaf (isBody_plain (show [].Nodup by decide) (show [] ⊆ _ by simp)
        (List.forall_mem_nil _))
  | kindExpression m => exact leaf (isBody_kind m)
  | propertyReference m => exact leaf (isBody_reference m)
  | projection m => exact leaf (isBody_projection m)
  | propertyOrder m => exact leaf (isBody_order m)
  | propertyFilter m => exact isBody_propertyFilter h
  | compositeFilter m => exact isBody_combination m.op fun f part => isBody_filter (h f part)
  | filter f => exact isBody_filter h
  | query m => exact isBody_query h
  | partitionId m => exact leaf (isBody_partition m)
  | request m =>
      refine (isBody_record ?_ ?_ (fun q mapping => (q, mapping) ∈ m.query.mappings) "query" ?_
        (List.forall_mem_cons.mpr ⟨⟨fun _ => isBody_partition m.partitionId, ?_⟩,
          List.forall_mem_singleton.mpr ⟨fun other => absurd rfl other, fun _ => isBody_query h⟩⟩)
        ).congr fun q mapping => mem_map_underStep.symm
      · exact (show ["partitionId", "query"].Nodup by decide)
      · exact (show ["partitionId", "query"] ⊆ _ by decide)
      · exact .inl (show "query" ∈ ["partitionId", "query"] by decide)
      · exact fun same => absurd same (show ¬ "partitionId" = "query" by decide)

/-- A wire name that is the plain name of a field is the wire name of that field too. -/
theorem Field.wire_eq_plain {name : String} (isWire : name ∈ all.map Spelling.wire)
    {field : Spelling} (isField : field ∈ all) (plain : name = field.plain) :
    field.wire = field.plain := by
  have each : ∀ name ∈ all.map Spelling.wire, ∀ field ∈ all, name = field.plain →
      field.wire = field.plain := by
    decide
  exact each name isWire field isField plain

/-- In the body of a message there are the bodies of the compiled queries in it, at the places of
`Message.queries`. -/
theorem Message.inside?_encoded_query {m : Message Value} {q : Place} {query : QueryMessage Value}
    (among : (q, query) ∈ m.queries) : m.encoded.inside? q = some query.encoded := by
  cases m with
  | query m =>
      cases List.mem_singleton.mp among
      rfl
  | request m =>
      cases List.mem_singleton.mp among
      rfl
  | _ => exact absurd among List.not_mem_nil

end EntityQuery
