import EntityQuery.Message.Body
import EntityQuery.Proofs.Checking

/-!
# What bodies are, and how deep

`Message.body` can fail in several ways, but not for a message whose mappings hold *data*: for
those the only question is whether there are levels enough.

* `Nesting.fit` is the outcome of an encoding that needs a number of levels. It is closed under
  everything that encoders do, which is why no proof below looks at a failure twice.
* `Value.IsData` says what data is: constants, numbers, texts, bytes and members, in lists,
  tuples and mappings from texts, with no place inside itself. `Value.encoded` is its encoded
  form without regard to depth, and `Value.levels` the number of levels that it takes.
* `Value.bodyIn_eq`, `bodyFilter_eq` and `Message.body_eq` join the three: a body is the encoded
  form if there are levels enough, and else fails as too deep.
-/

namespace EntityQuery

/-! ## Encodings that need levels -/

namespace Nesting

variable {α β γ : Type} {n : Nesting}

/-- The outcome of an encoding that needs a number of levels. All of `Message.body` comes down to
one `fit`, with the levels and the encoded form computed apart from each other. -/
def fit (n : Nesting) (levels : Nat) (a : α) : Except Failure α :=
  if n.depth + levels ≤ limit then .ok a else .error .tooDeep

theorem fit_of_le {levels : Nat} (h : n.depth + levels ≤ limit) (a : α) :
    n.fit levels a = .ok a := if_pos h

theorem fit_of_lt {k : Nat} (h : limit < n.depth + k) (a : α) :
    n.fit k a = .error .tooDeep := if_neg (by omega)

/-- What is made of an encoding needs no levels of its own. -/
@[simp] theorem map_fit (f : α → β) (levels : Nat) (a : α) :
    f <$> n.fit levels a = n.fit levels (f a) := by
  unfold fit
  split <;> rfl

/-- Two encodings side by side need the levels of the deeper one. It does not matter which is too
deep, as the failure is the same. -/
theorem fit_bind_fit (f : α → β → γ) (k l : Nat) (a : α) (b : β) :
    (n.fit k a >>= fun x => f x <$> n.fit l b) = n.fit (max k l) (f a b) := by
  -- Whichever of the two is too deep, the failure is the same.
  by_cases hk : n.depth + k ≤ limit
  · by_cases hl : n.depth + l ≤ limit
    · rw [fit_of_le hk, fit_of_le hl, fit_of_le (by omega)]
      rfl
    · rw [fit_of_le hk, fit_of_lt (k := l) (by omega),
        fit_of_lt (k := max k l) (by omega)]
      rfl
  · rw [fit_of_lt (k := k) (by omega), fit_of_lt (k := max k l) (by omega)]
    rfl

/-- An encoding one level further in needs one level more. -/
theorem deeper_fit (levels : Nat) (a : α) : n.deeper.fit levels a = n.fit (levels + 1) a := by
  simp only [fit, depth_deeper, Nat.add_assoc, Nat.add_comm 1 levels]

theorem ifRoom_fit (levels : Nat) (a : α) :
    n.ifRoom (n.deeper.fit levels a) = n.fit (levels + 1) a := by
  rw [deeper_fit]
  unfold ifRoom hasRoom
  split
  · rfl
  · rename_i full
    rw [fit_of_lt (by have := of_decide_eq_false (eq_false_of_ne_true full); omega)]

theorem ifRoom_ok (a : α) : n.ifRoom (.ok a) = n.fit 1 a := by
  unfold ifRoom fit hasRoom
  by_cases h : n.depth < limit
  · rw [if_pos (by simpa using h), if_pos (by omega)]
  · rw [if_neg (by simpa using h), if_neg (by omega)]

/-- `ifRoom` asks for nothing inside if there is no room, so its argument matters only while levels
are left. -/
theorem ifRoom_congr {x y : Except Failure α} (h : n.deeper.depth ≤ limit → x = y) :
    n.ifRoom x = n.ifRoom y := by
  unfold ifRoom hasRoom
  split
  · rename_i room
    exact h (Nat.succ_le_of_lt (of_decide_eq_true room))
  · rfl

end Nesting

/-! ## Data -/

/-- Data inside of some places: what a body can hold. Data that is met inside itself is no data
here, and the places are what it could be met at. -/
inductive Value.IsData : List Nat → Value → Prop where
  | none {inside : List Nat} : IsData inside .none
  | bool {inside : List Nat} (b : Bool) : IsData inside (.bool b)
  | int {inside : List Nat} (i : Int) : IsData inside (.int i)
  | float {inside : List Nat} (x : Binary64) : IsData inside (.float x)
  | text {inside : List Nat} (s : String) : IsData inside (.text s)
  | bytes {inside : List Nat} (b : List UInt8) : IsData inside (.bytes b)
  | member {inside : List Nat} (m : Member) : IsData inside (.member m)
  | list {inside : List Nat} {items : List Value} (parts : ∀ v ∈ items, IsData inside v) :
      IsData inside (.list items)
  | tuple {inside : List Nat} {items : List Value} (parts : ∀ v ∈ items, IsData inside v) :
      IsData inside (.tuple items)
  | mapping {inside : List Nat} {entries : List (Value × Value)} (keys : TextKeys entries)
      (parts : ∀ e ∈ entries, IsData inside e.2) : IsData inside (.mapping entries)
  /-- What is at a place that is not around it. -/
  | object {inside : List Nat} {number : Nat} {look : Unit → Value} (outside : number ∉ inside)
      (seen : IsData (number :: inside) (look ())) : IsData inside (.object number look)

mutual

/-- The encoded form of data, however deep it is. It is what `Value.bodyIn` gives where the levels
suffice. -/
def Value.encoded : Value → Value
  | .float x => if x.isFinite then .float x else .none
  | .bytes b => .text (Text.Base64.encode b)
  | .list items => .list (encodedItems items)
  | .tuple items => .list (encodedItems items)
  | .mapping entries => .ofTexts (encodedEntries entries)
  | .object _ look => (look ()).encoded
  | .member m => .text m.spelling
  | v => v
termination_by structural v => v

/-- The encoded forms of items. -/
def encodedItems : List Value → List Value
  | [] => []
  | v :: rest => v.encoded :: encodedItems rest
termination_by structural items => items

/-- The entries of a mapping from texts with their values encoded. -/
def encodedEntries : List (Value × Value) → List (String × Value)
  | [] => []
  | (k, v) :: rest => (k.textOf, v.encoded) :: encodedEntries rest
termination_by structural entries => entries

end

mutual

/-- The number of levels that data takes in a body. -/
def Value.levels : Value → Nat
  | .list items => levelsItems items + 1
  | .tuple items => levelsItems items + 1
  | .mapping entries => levelsEntries entries + 1
  | .object _ look => (look ()).levels
  | .member _ => 2
  | _ => 1
termination_by structural v => v

/-- The number of levels of the deepest item. -/
def levelsItems : List Value → Nat
  | [] => 0
  | v :: rest => max v.levels (levelsItems rest)
termination_by structural items => items

/-- The number of levels of the deepest value. -/
def levelsEntries : List (Value × Value) → Nat
  | [] => 0
  | (_, v) :: rest => max v.levels (levelsEntries rest)
termination_by structural entries => entries

end

/-- Lists inside each other, as the plainest data that is too deep for a body. -/
def nestedList : Nat → Value
  | 0 => .list []
  | n + 1 => .list [nestedList n]

theorem levels_nestedList (n : Nat) : (nestedList n).levels = n + 1 := by
  induction n with
  | zero => rfl
  | succ n ih => simp [nestedList, Value.levels, levelsItems, ih]

theorem isData_nestedList (n : Nat) : (nestedList n).IsData [] := by
  induction n with
  | zero => exact .list (by simp)
  | succ n ih => exact .list (by simpa using ih)

/-- A value that is a text is a key of a body by it. -/
theorem Value.bodyKey_of_isSome {v : Value} (h : v.asText?.isSome = true) :
    v.bodyKey = .ok v.textOf := by
  cases v with
  | text s => rfl
  | member m => rfl
  | object _ look => exact bodyKey_of_isSome (v := look ()) h
  | _ => simp [asText?] at h

/-- A text that is no key of a mapping from texts yet becomes its last one. -/
theorem Entries.set_plainFields {fields : List (String × Value)} {key : String}
    (fresh : key ∉ fields.map Prod.fst) (value : Value) :
    Entries.set (.text key) value (plainFields fields) =
      plainFields (fields ++ [(key, value)]) := by
  induction fields with
  | nil => rfl
  | cons e rest ih =>
      obtain ⟨k, v⟩ := e
      simp only [List.map_cons, List.mem_cons, not_or] at fresh
      have differ : (Value.text k).alike (.text key) = false := by
        simpa [Value.alike, Value.alikeIn, Value.asText?] using fresh.1
      have step := ih fresh.2
      simp only [plainFields, List.map_cons, List.cons_append, Entries.set, differ] at step ⊢
      rw [if_neg Bool.false_ne_true, step]

/-- `bodyItems` comes down to one `fit` if the encodings of the items do. The levels of the deepest
item decide. -/
theorem bodyItems_eq {n : Nesting} (room : n.depth ≤ Nesting.limit) {items : List Value}
    (each : ∀ v ∈ items, v.bodyIn n = n.fit v.levels v.encoded) :
    bodyItems n items = n.fit (levelsItems items) (encodedItems items) := by
  induction items with
  | nil => exact (Nesting.fit_of_le room _).symm
  | cons v rest ih =>
      simp only [List.forall_mem_cons] at each
      simp only [bodyItems, each.1, ih each.2, levelsItems, encodedItems, bind_pure_comp,
        Nesting.fit_bind_fit]

/-- The same of the entries of a mapping from texts, whose keys are new. -/
theorem bodyEntries_eq {n : Nesting} (room : n.depth ≤ Nesting.limit)
    {entries : List (Value × Value)} {before : List (String × Value)}
    (texts : ∀ e ∈ entries, e.1.asText?.isSome = true)
    (nodup : (before.map Prod.fst ++ entries.map fun e => e.1.textOf).Nodup)
    (each : ∀ e ∈ entries, e.2.bodyIn n = n.fit e.2.levels e.2.encoded) :
    bodyEntries n (plainFields before) entries =
      n.fit (levelsEntries entries) (plainFields (before ++ encodedEntries entries)) := by
  -- The encoder sets keys one by one, so what it has set so far is kept general.
  induction entries generalizing before with
  | nil => simpa [bodyEntries, encodedEntries] using (Nesting.fit_of_le room _).symm
  | cons e rest ih =>
      obtain ⟨k, v⟩ := e
      simp only [List.forall_mem_cons] at texts each
      have fresh : k.textOf ∉ before.map Prod.fst := by
        intro found
        exact (List.nodup_append.mp nodup).2.2 _ found _ (by simp) rfl
      have later : bodyEntries n (plainFields (before ++ [(k.textOf, v.encoded)])) rest =
          n.fit (levelsEntries rest)
            (plainFields (before ++ [(k.textOf, v.encoded)] ++ encodedEntries rest)) :=
        ih texts.2 (by simpa using nodup) each.2
      simp only [bodyEntries, Value.bodyKey_of_isSome texts.1, each.1, levelsEntries,
        encodedEntries]
      calc
        _ = (n.fit v.levels v.encoded >>= fun value =>
              bodyEntries n (Entries.set (.text k.textOf) value (plainFields before)) rest) := rfl
        _ = (n.fit v.levels v.encoded >>= fun _ => id <$> n.fit (levelsEntries rest)
              (plainFields (before ++ (k.textOf, v.encoded) :: encodedEntries rest))) := by
            unfold Nesting.fit at later ⊢
            split
            · simp only [bind, Except.bind, Entries.set_plainFields fresh, later, id_map,
                List.append_assoc, List.singleton_append]
            · rfl
        _ = _ := Nesting.fit_bind_fit (fun _ => id) _ _ _ _

/-- Data comes down to one `fit`: it is encoded to `Value.encoded` if there are levels enough. The
induction is on `Value.IsData`, whose places are those that `Nesting` has entered. -/
theorem Value.bodyIn_eq {inside : List Nat} {v : Value} (h : v.IsData inside) (n : Nesting)
    (entered : n.entered = inside) : v.bodyIn n = n.fit v.levels v.encoded := by
  induction h generalizing n with
  | none | bool _ | int _ | float _ | text _ | bytes _ => exact Nesting.ifRoom_ok _
  | member m =>
      simp only [bodyIn, levels, encoded, Nesting.ifRoom_ok, Nesting.ifRoom_fit]
  | list _ ih | tuple _ ih =>
      rw [levels, encoded, ← Nesting.ifRoom_fit, bodyIn]
      refine Nesting.ifRoom_congr fun room => ?_
      rw [bodyItems_eq room fun v hv => ih v hv n.deeper entered, bind_pure_comp, Nesting.map_fit]
  | mapping keys _ ih =>
      rw [levels, encoded, ← Nesting.ifRoom_fit, bodyIn]
      refine Nesting.ifRoom_congr fun room => ?_
      rw [show ([] : List (Value × Value)) = plainFields [] from rfl,
        bodyEntries_eq room keys.texts (by simpa using keys.nodup)
          fun e he => ih e he n.deeper entered,
        bind_pure_comp, Nesting.map_fit]
      rfl
  | object outside _ ih =>
      -- What is seen at the place is data inside of one place more, the one that is entered here.
      subst entered
      rw [bodyIn, if_neg (by simpa [Nesting.isInside] using outside)]
      exact ih (n.enter _) rfl

/-! ## Messages -/

/-- A filter all of whose mappings are as wanted. Nothing else in a message is left to the caller,
so what is asked of messages is asked of these. -/
inductive Filter.Holds (wanted : List (String × Value) → Prop) : Filter Value → Prop where
  | property {m : PropertyFilter Value} (mapping : wanted m.value) : Holds wanted (.property m)
  | composite {op : CompositeOperator} {filters : List (Filter Value)} {mark : Option Nat}
      (parts : ∀ f ∈ filters, Holds wanted f) : Holds wanted (.composite op filters mark)

/-- A message all of whose mappings are as wanted. -/
def Message.Holds (wanted : List (String × Value) → Prop) : Message Value → Prop
  | .propertyFilter m => wanted m.value
  | .compositeFilter m => ∀ f ∈ m.filters, f.Holds wanted
  | .filter f => f.Holds wanted
  | .query m => ∀ f ∈ m.filter, f.Holds wanted
  | .request m => ∀ f ∈ m.query.filter, f.Holds wanted
  | _ => True

/-- The values of a mapping from texts are data. -/
def IsDataMapping (value : List (String × Value)) : Prop := ∀ e ∈ value, e.2.IsData []

/-- A mapping from texts with its values encoded. -/
def encodedMapping (value : List (String × Value)) : List (String × Value) :=
  value.map fun e => (e.1, e.2.encoded)

/-- A text is encoded as the text that it is. -/
theorem Value.encoded_of_isSome {v : Value} (h : v.asText?.isSome = true) :
    v.encoded = .text v.textOf := by
  cases v with
  | text s => rfl
  | member m => rfl
  | object _ look => exact encoded_of_isSome (v := look ()) h
  | _ => cases h

/-- `encodedEntries` keeps keys as values, while a message has them as texts; both give the same
mapping. -/
theorem encodedEntries_eq (entries : List (Value × Value)) :
    encodedEntries entries = encodedMapping (textFields entries) := by
  induction entries with
  | nil => rfl
  | cons e rest ih =>
      obtain ⟨k, v⟩ := e
      rw [encodedEntries, ih]
      rfl

/-- A mapping that is given by its texts is encoded value by value. -/
theorem Value.encoded_ofTexts (fields : List (String × Value)) :
    (Value.ofTexts fields).encoded = .ofTexts (encodedMapping fields) := by
  have entries := encodedEntries_eq (plainFields fields)
  rw [textFields_plainFields] at entries
  exact congrArg Value.ofTexts entries

/-- A mapping that is given by different texts is data if its values are. -/
theorem Value.isData_ofTexts {inside : List Nat} {fields : List (String × Value)}
    (nodup : (fields.map Prod.fst).Nodup) (each : ∀ e ∈ fields, e.2.IsData inside) :
    (Value.ofTexts fields).IsData inside := by
  refine .mapping (textKeys_plainFields nodup) fun e he => ?_
  obtain ⟨f, hf, rfl⟩ := List.mem_map.mp he
  exact each f hf

/-- The number of levels of the deepest value of a mapping from texts. -/
def levelsMapping : List (String × Value) → Nat
  | [] => 0
  | (_, v) :: rest => max v.levels (levelsMapping rest)

/-- The encoded form of a property filter, however deep it is. -/
def PropertyFilter.encoded (m : PropertyFilter Value) : Value :=
  m.bodyOf (.ofTexts (encodedMapping m.value))

mutual

/-- The encoded form of a filter, however deep it is. -/
def Filter.encoded : Filter Value → Value
  | .property m => .ofTexts [(Field.propertyFilter.wire, m.encoded)]
  | .composite op filters _ =>
      .ofTexts [(Field.compositeFilter.wire, CompositeFilter.bodyOf op (encodedFilters filters))]
termination_by structural f => f

/-- The encoded forms of filters. -/
def encodedFilters : List (Filter Value) → List Value
  | [] => []
  | f :: rest => f.encoded :: encodedFilters rest
termination_by structural filters => filters

end

mutual

/-- The number of levels that a filter takes in a body. -/
def Filter.levels : Filter Value → Nat
  | .property m => levelsMapping m.value + 1
  | .composite _ filters _ => levelsFilters filters + 1
termination_by structural f => f

/-- The number of levels of the deepest filter. -/
def levelsFilters : List (Filter Value) → Nat
  | [] => 0
  | f :: rest => max f.levels (levelsFilters rest)
termination_by structural filters => filters

end

/-- The encoded form of a compiled query, however deep it is. -/
def QueryMessage.encoded (m : QueryMessage Value) : Value :=
  m.bodyOf (m.filter.map Filter.encoded)

/-- The number of levels that a compiled query takes: those of its filter and one around it. Nothing
else in it nests. -/
def QueryMessage.levels (m : QueryMessage Value) : Nat :=
  match m.filter with
  | none => 0
  | some f => f.levels + 1

/-- The encoded form of a message, however deep it is. -/
def Message.encoded : Message Value → Value
  | .bare => .ofTexts []
  | .kindExpression m => m.body
  | .propertyReference m => m.body
  | .projection m => m.body
  | .propertyOrder m => m.body
  | .propertyFilter m => m.encoded
  | .compositeFilter m => CompositeFilter.bodyOf m.op (encodedFilters m.filters)
  | .filter m => m.encoded
  | .query m => m.encoded
  | .partitionId m => m.body
  | .request m =>
      .ofTexts [(Field.partitionId.wire, m.partitionId.body), (Field.query.wire, m.query.encoded)]

/-- The number of levels that a message takes in its body. -/
def Message.levels : Message Value → Nat
  | .propertyFilter m => levelsMapping m.value
  | .compositeFilter m => levelsFilters m.filters + 1
  | .filter m => m.levels
  | .query m => m.levels
  | .request m => m.query.levels
  | _ => 0

/-- The mapping of a property filter comes down to one `fit`. It is entered from outside of all
places (`n.entered = []`), as filters have none. -/
theorem bodyMapping_eq {n : Nesting} (room : n.depth ≤ Nesting.limit) (outside : n.entered = [])
    {value : List (String × Value)} (h : IsDataMapping value) :
    bodyMapping n value = n.fit (levelsMapping value) (encodedMapping value) := by
  induction value with
  | nil => exact (Nesting.fit_of_le room _).symm
  | cons e rest ih =>
      obtain ⟨k, v⟩ := e
      simp only [IsDataMapping, List.forall_mem_cons] at h
      simp only [bodyMapping, Value.bodyIn_eq h.1 n outside, ih h.2, levelsMapping,
        encodedMapping, List.map_cons, bind_pure_comp]
      exact Nesting.fit_bind_fit (fun value entries => (k, value) :: entries) _ _ _ _

theorem bodyPropertyFilter_eq {n : Nesting} (room : n.depth ≤ Nesting.limit)
    (outside : n.entered = []) {m : PropertyFilter Value} (h : IsDataMapping m.value) :
    bodyPropertyFilter n m = n.fit (levelsMapping m.value) m.encoded := by
  obtain ⟨property, op, value, mark⟩ := m
  rw [bodyPropertyFilter, bodyMapping_eq room outside h, bind_pure_comp, Nesting.map_fit]
  rfl

/-- Filters are encoded one by one, and are as deep as the deepest. -/
theorem bodyFilters_eq {n : Nesting} (room : n.depth ≤ Nesting.limit)
    {filters : List (Filter Value)}
    (each : ∀ f ∈ filters, bodyFilter n f = n.fit f.levels f.encoded) :
    bodyFilters n filters = n.fit (levelsFilters filters) (encodedFilters filters) := by
  induction filters with
  | nil => exact (Nesting.fit_of_le room _).symm
  | cons f rest ih =>
      simp only [List.forall_mem_cons] at each
      simp only [bodyFilters, each.1, ih each.2, levelsFilters, encodedFilters, bind_pure_comp,
        Nesting.fit_bind_fit]

/-- A filter of data comes down to one `fit`. The induction is on `Filter.Holds`, whose cases are
the two kinds of filters. -/
theorem bodyFilter_eq {f : Filter Value} (h : f.Holds IsDataMapping) (n : Nesting)
    (outside : n.entered = []) : bodyFilter n f = n.fit f.levels f.encoded := by
  induction h generalizing n with
  | property mapping =>
      rw [bodyFilter, Filter.levels, Filter.encoded, ← Nesting.ifRoom_fit]
      refine Nesting.ifRoom_congr fun room => ?_
      rw [bodyPropertyFilter_eq room outside mapping, bind_pure_comp, Nesting.map_fit]
  | composite _ ih =>
      rw [bodyFilter, Filter.levels, Filter.encoded, ← Nesting.ifRoom_fit]
      refine Nesting.ifRoom_congr fun room => ?_
      rw [bodyFilters_eq room fun f hf => ih f hf n.deeper outside, bind_pure_comp,
        Nesting.map_fit]

theorem bodyQuery_outside {m : QueryMessage Value} (h : ∀ f ∈ m.filter, f.Holds IsDataMapping) :
    bodyQuery .outside m = Nesting.outside.fit m.levels m.encoded := by
  rw [bodyQuery_eq]
  unfold QueryMessage.levels QueryMessage.encoded
  cases found : m.filter with
  | none => rfl
  | some f =>
      simp only [bodyFilter?, bodyFilter_eq (h f found) Nesting.outside.deeper rfl,
        bind_pure_comp, Nesting.map_fit, Nesting.deeper_fit, Option.map_some]
      exact Nesting.map_fit _ _ _

/-- The body of a message of data is its encoded form if there are levels enough; else it is too
deep for one. Everything about bodies of data starts from here. -/
theorem Message.body_eq {m : Message Value} (h : m.Holds IsDataMapping) :
    m.body = Nesting.outside.fit m.levels m.encoded := by
  cases m with
  | propertyFilter m => exact bodyPropertyFilter_eq (Nat.zero_le _) rfl h
  | compositeFilter m =>
      have parts := bodyFilters_eq (n := Nesting.outside.deeper) (by decide) fun f hf =>
        bodyFilter_eq (h f hf) _ rfl
      rw [body, bodyMessage, parts, bind_pure_comp, Nesting.map_fit, Nesting.deeper_fit]
      rfl
  | filter f => exact bodyFilter_eq h _ rfl
  | query m => exact bodyQuery_outside h
  | request m =>
      rw [body, bodyMessage, bodyQuery_outside h, bind_pure_comp, Nesting.map_fit]
      rfl
  | _ => rfl

end EntityQuery
