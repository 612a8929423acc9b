import EntityQuery.Message.Make

/-!
# What checks let through

The validation of a class runs through the spellings of all its fields. The lemmas here say what
is left of it where the data is of a known shape, so that no proof about messages opens it again.

* `Value.textOf` is the text that a value is; `checkText_of_isSome` accepts it.
* `Entries.get?_plainFields` looks fields up in a mapping that is given by its texts;
  `TextKeys.checkMapping_eq` reads mappings whose keys are texts.
* `Checked.items_map` and `checkSequence_map` are about sequences of acceptable items.
* `PropertyFilter.make_eq`, `CompositeFilter.make_filters` and `QueryMessage.make_eq` are the
  three classes that compilation makes, with the fields that can still be refused.
-/

namespace EntityQuery

/-! ## Texts -/

/-- The text that a value is, or the empty one. Lemmas about texts use it in place of `asText?` once
`isSome` is known. -/
def Value.textOf (v : Value) : String := v.asText?.getD ""

theorem Value.asText?_eq_some_textOf {v : Value} (h : v.asText?.isSome = true) :
    v.asText? = some v.textOf := by
  obtain ⟨s, found⟩ := Option.isSome_iff_exists.mp h
  simp [textOf, found]

/-- Looking through `object` changes nothing about texts. -/
theorem Value.asText?_content (v : Value) : v.content.asText? = v.asText? := by
  cases v with
  | object _ look => exact asText?_content (look ())
  | _ => rfl

/-- A text is seen as a text or as a member. -/
theorem Value.content_of_isSome {v : Value} (h : v.asText?.isSome = true) :
    (∃ s, v.content = .text s) ∨ ∃ m, v.content = .member m := by
  induction v using Value.content.induct with
  | case1 _ look ih => exact ih h
  | case2 v notObject =>
      cases v with
      | text s => exact .inl ⟨s, rfl⟩
      | member m => exact .inr ⟨m, rfl⟩
      | object _ look => exact absurd rfl (notObject _ look)
      | _ => cases h

theorem Value.content_of_isNone {v : Value} (h : v.isNone = true) : v.content = .none := by
  induction v using Value.content.induct with
  | case1 _ look ih => exact ih h
  | case2 v notObject =>
      cases v with
      | none => rfl
      | object _ look => exact absurd rfl (notObject _ look)
      | _ => cases h

theorem Value.asText?_of_isNone {v : Value} (h : v.isNone = true) :
    v.asText? = Option.none := by
  cases v with
  | none => rfl
  | object _ look => exact asText?_of_isNone (v := look ()) h
  | _ => cases h

theorem Value.isNone_of_isSome {v : Value} (h : v.asText?.isSome = true) : v.isNone = false := by
  rw [← Bool.not_eq_true]
  intro isNone
  rw [asText?_of_isNone isNone] at h
  cases h

theorem Value.textOf_of_member {v : Value} {m : Member} (seen : v.content = .member m) :
    v.textOf = m.spelling := by
  rw [textOf, ← asText?_content, seen]
  rfl

theorem Value.spelling?_of_member {v : Value} {m : Member} (seen : v.content = .member m) :
    v.spelling? = some m.spelling := by
  simp [spelling?, seen, asText?]

/-- `checkText` accepts a text for what it is. Bytes are another matter, see `Value.spelling?`. -/
theorem checkText_of_isSome {v : Value} (h : v.asText?.isSome = true) :
    checkText v = .ok v.textOf := by
  rw [Value.textOf, ← Value.asText?_content]
  rcases Value.content_of_isSome h with ⟨s, seen⟩ | ⟨m, seen⟩
  · simp only [checkText, seen]
    rfl
  · simp only [checkText, seen]
    rfl

theorem KindExpression.make_of_isSome {v : Value} (h : v.asText?.isSome = true) :
    make v = .ok ⟨v.textOf⟩ := by
  rw [make_eq, checkText_of_isSome h]
  rfl

theorem PropertyReference.make_of_isSome {v : Value} (h : v.asText?.isSome = true) :
    make v = .ok ⟨v.textOf⟩ := by
  rw [make_eq, checkText_of_isSome h]
  rfl

theorem checkOptional_of_content {α : Type} {check : Value → Checked α} {v : Value} {a : α}
    (read : check v = .ok a) (present : v.content ≠ .none) :
    checkOptional check v = .ok (some a) := by
  have isPresent : v.isNone = false := by
    rw [← Bool.not_eq_true]
    exact fun isNone => present (Value.content_of_isNone isNone)
  rw [checkOptional, isPresent, read]
  rfl

/-- `checkMember` finds the member that is spelt. -/
theorem checkMember_of_spelling {α : Type} {enumeration : Enumeration}
    {ofSpelling? : String → Option α} {v : Value} {s : String} {a : α}
    (spelt : v.spelling? = some s) (spells : ofSpelling? s = some a) :
    checkMember enumeration ofSpelling? v = .ok a := by
  simp [checkMember, spelt, spells]

/-! ## Sequences and mappings -/

/-- `Checked.items` over values that are written from a list gives back what each is read as. This
is the form in which sequences turn up in messages. -/
theorem Checked.items_map {α β : Type} {check : Value → Checked β} {write : α → Value}
    {read : α → β} {l : List α} (each : ∀ a ∈ l, check (write a) = .ok (read a)) (index : Nat) :
    Checked.items check index (l.map write) = .ok (l.map read) := by
  induction l generalizing index with
  | nil => rfl
  | cons a rest ih =>
      simp only [List.forall_mem_cons] at each
      simp only [List.map_cons, Checked.items, each.1, ih each.2, Checked.under_ok,
        Checked.and_ok]

/-- A list of bodies is a sequence of what each body is read as. -/
theorem checkSequence_map {α : Type} {check : Value → Checked α} {write : α → Value}
    (each : ∀ a, check (write a) = .ok a) (l : List α) :
    checkSequence check (.list (l.map write)) = .ok l := by
  have items : Checked.items check 0 (l.map write) = .ok (l.map id) :=
    Checked.items_map (fun a _ => each a) 0
  simpa [checkSequence, Value.sequence?, Value.content] using items

/-- The fields of a mapping that is given by its texts. -/
@[simp] theorem Value.content_ofTexts (fields : List (String × Value)) :
    (Value.ofTexts fields).content = .mapping (plainFields fields) := rfl

/-- A field of such a mapping is the first with its name. -/
@[simp] theorem Entries.get?_plainFields (name : String) (fields : List (String × Value)) :
    Entries.get? name (plainFields fields) = fields.lookup name := by
  induction fields with
  | nil => rfl
  | cons e rest ih =>
      obtain ⟨k, v⟩ := e
      simp only [plainFields, List.map_cons, Entries.get?, Value.asText?, Option.some.injEq]
        at ih ⊢
      by_cases same : k = name
      · simp [same]
      · rw [if_neg same, ih, List.lookup_cons, beq_eq_false_iff_ne.mpr (Ne.symm same)]

/-- In a mapping from texts a field is checked under its wire name if it is there by that, else
under the plain one. -/
@[simp] theorem Spelling.find?_plainFields {α : Type} (field : Spelling)
    (check : Value → Checked α) (fields : List (String × Value)) :
    field.find? check (plainFields fields) =
      ((fields.lookup field.wire).map fun v => (check v).under (.key field.wire)).or
        ((fields.lookup field.plain).map fun v => (check v).under (.key field.plain)) := by
  rw [find?, given?, Entries.get?_plainFields, Entries.get?_plainFields, Option.map_or,
    Option.map_map, Option.map_map]
  rfl

/-- `setText` appends a text that is not there yet. It would replace the value of one that is, so
the proofs below carry along that keys are different. -/
theorem setText_of_fresh {fields : List (String × Value)} {key : String}
    (fresh : key ∉ fields.map Prod.fst) (value : Value) :
    setText key value fields = fields ++ [(key, value)] := by
  induction fields with
  | nil => rfl
  | cons e rest ih =>
      obtain ⟨k, v⟩ := e
      simp only [List.map_cons, List.mem_cons, not_or] at fresh
      simp only [setText, if_neg (Ne.symm fresh.1), ih fresh.2, List.cons_append]

/-- The keys of a mapping are texts, and no two of them the same. A member counts as the text that
it spells, so this is more than that the keys differ. -/
structure TextKeys (entries : List (Value × Value)) : Prop where
  texts : ∀ e ∈ entries, e.1.asText?.isSome = true
  nodup : (entries.map fun e => e.1.textOf).Nodup

/-- The entries of a mapping from texts, by their texts. It undoes `plainFields`. -/
def textFields (entries : List (Value × Value)) : List (String × Value) :=
  entries.map fun e => (e.1.textOf, e.2)

/-- `checkEntries` takes entries with texts of their own one after another. The induction needs the
entries `before`, since it is with these that a text could collide. -/
theorem checkEntries_of_texts {before : List (String × Value)} {entries : List (Value × Value)}
    (texts : ∀ e ∈ entries, e.1.asText?.isSome = true)
    (nodup : (before.map Prod.fst ++ entries.map fun e => e.1.textOf).Nodup) :
    checkEntries before entries = .ok (before ++ textFields entries) := by
  -- A key that was read before would be set again, so no key may be among those before.
  induction entries generalizing before with
  | nil => simp [textFields, checkEntries]
  | cons e rest ih =>
      obtain ⟨k, v⟩ := e
      simp only [List.forall_mem_cons] at texts
      have fresh : k.textOf ∉ before.map Prod.fst := by
        intro found
        exact (List.nodup_append.mp nodup).2.2 _ found _ (by simp) rfl
      have later : checkEntries (before ++ [(k.textOf, v)]) rest =
          .ok (before ++ [(k.textOf, v)] ++ textFields rest) :=
        ih texts.2 (by simpa using nodup)
      simp only [checkEntries, checkText_of_isSome texts.1, setText_of_fresh fresh, later]
      simp [textFields]

theorem TextKeys.checkMapping_eq {v : Value} {entries : List (Value × Value)}
    (keys : TextKeys entries) (seen : v.content = .mapping entries) :
    checkMapping v = .ok (textFields entries) := by
  rw [checkMapping, seen]
  exact checkEntries_of_texts keys.texts (by simpa using keys.nodup)

/-- A mapping that is given by different texts has these for its keys. -/
theorem textKeys_plainFields {fields : List (String × Value)}
    (nodup : (fields.map Prod.fst).Nodup) : TextKeys (plainFields fields) := by
  constructor
  · intro e he
    obtain ⟨f, -, rfl⟩ := List.mem_map.mp he
    rfl
  · simpa [plainFields, Function.comp_def, Value.textOf, Value.asText?] using nodup

@[simp] theorem textFields_plainFields (fields : List (String × Value)) :
    textFields (plainFields fields) = fields := by
  simp [textFields, plainFields, Function.comp_def, Value.textOf, Value.asText?]

/-! ## Messages that compilation makes -/

/-- `PropertyFilter.make` with the property set aside, which is a message already and never
refused. -/
theorem PropertyFilter.make_eq (reference : PropertyReference) (op value : Value) :
    make reference op value = Checked.orInvalid .propertyFilter
      (((Checked.of (PropertyFilter.mk reference · · none)).and
        (Checked.under (.key "op") (checkPropertyOperator op))).and
        (Checked.under (.key "value") (checkMapping value))) := by
  simp [make, ofEntries, Field.property, Field.op, Field.value, Spelling.same, Spelling.required,
    List.lookup_cons, PropertyReference.check, Value.content]

theorem PropertyOrder.make_eq (reference : PropertyReference) (direction : Value) :
    make reference direction = Checked.orInvalid .propertyOrder
      ((Checked.of (PropertyOrder.mk reference)).and
        (Checked.under (.key "direction") (checkDirection direction))) := by
  simp [make, ofEntries, Field.property, Field.direction, Spelling.same, Spelling.required,
    Spelling.defaulted, List.lookup_cons, PropertyReference.check, Value.content]

/-- Filters among filters are taken as they are, so that the data is not gone through again and
nothing is refused as too deep. -/
theorem Filter.checkSequence_filters (filters : List (Filter Value)) :
    Filter.checkSequence Filter.checkInMessage
      (.tuple (filters.map (Value.message ∘ .filter))) [] = (.ok filters, []) := by
  have kept : ∀ v ∈ filters.map (Value.message ∘ .filter),
      (Filter.checkInMessage v []).2 = [] := by
    intro v hv
    obtain ⟨f, -, rfl⟩ := List.mem_map.mp hv
    rfl
  have items : Checked.items (fun v => (Filter.checkInMessage v []).1) 0
      (filters.map (Value.message ∘ .filter)) = .ok (filters.map id) :=
    Checked.items_map (by intros; rfl) 0
  simp only [Filter.checkSequence, Value.sequence?, Value.content,
    Filter.checkItems_eq_items kept, items, List.map_id]

/-- `CompositeFilter.make` of filters can only fail by its operator. -/
theorem CompositeFilter.make_filters (op : Value) (filters : List (Filter Value)) :
    make op (filters.map (Value.message ∘ .filter)) =
      (CompositeFilter.mk · filters none) <$> Checked.orInvalid .compositeFilter
        (Checked.under (.key "op") (checkCompositeOperator op)) := by
  simp [make, ofEntries, descend, Field.op, Field.filters, Spelling.same, Spelling.defaulted,
    Spelling.descend, Spelling.given?, List.lookup_cons, Filter.checkSequence_filters]
  rcases checkCompositeOperator op with (_ | _) | _ <;> rfl

/-- `QueryMessage.make` with the kinds, the projections and the filter set aside, which are messages
already and never refused. -/
theorem QueryMessage.make_eq (kinds : List KindExpression) (projections : List Projection)
    (filter : Option (Filter Value)) (orders groups : List (Message Value))
    (startCursor limit offset : Value) :
    make kinds projections filter orders groups startCursor limit offset =
      Checked.orInvalid .query
        ((((((Checked.of (QueryMessage.mk kinds projections filter)).and
          (Checked.under (.key "orders")
            (Checked.items PropertyOrder.check 0 (orders.map .message)))).and
          (Checked.under (.key "distinct_on")
            (Checked.items PropertyReference.check 0 (groups.map .message)))).and
          (Checked.under (.key "start_cursor") (checkOptional checkBytes startCursor))).and
          (Checked.under (.key "limit") (checkOptional checkInteger limit))).and
          (Checked.under (.key "offset") (checkInteger offset))) := by
  have kindsRead : Checked.items KindExpression.check 0
      (kinds.map fun k => .message (.kindExpression k)) = .ok (kinds.map id) :=
    Checked.items_map (by intros; rfl) 0
  have projectionsRead : Checked.items Projection.check 0
      (projections.map fun p => .message (.projection p)) = .ok (projections.map id) :=
    Checked.items_map (by intros; rfl) 0
  have filterRead : ∀ f, checkOptional (fun v => (Filter.checkInMessage v []).1)
      (.message (.filter f)) = .ok (some f) := fun _ => rfl
  have noFilter : checkOptional (fun v => (Filter.checkInMessage v []).1) .none = .ok none := rfl
  cases filter <;>
    simp [make, ofEntries, Field.kinds, Field.projections, Field.filter, Field.orders,
      Field.distinctOn, Field.startCursor, Field.limit, Field.offset, Spelling.same,
      Spelling.defaulted, List.lookup_cons, checkSequence, Value.sequence?, Value.content,
      kindsRead, projectionsRead, filterRead, noFilter]

/-- A compiled query is made of orders and groups that are compiled and of paging that is
accepted. -/
theorem QueryMessage.make_of_read (kinds : List KindExpression) (projections : List Projection)
    (filter : Option (Filter Value)) (orders : List PropertyOrder)
    (groups : List PropertyReference) {startCursor limit offset : Value}
    {cursor : Option (List UInt8)} {limitNumber : Option Int} {offsetNumber : Int}
    (cursorRead : checkOptional checkBytes startCursor = .ok cursor)
    (limitRead : checkOptional checkInteger limit = .ok limitNumber)
    (offsetRead : checkInteger offset = .ok offsetNumber) :
    make kinds projections filter (orders.map .propertyOrder)
        (groups.map .propertyReference) startCursor limit offset =
      .ok ⟨kinds, projections, filter, orders, groups, cursor, limitNumber, offsetNumber⟩ := by
  have ordersRead : Checked.items PropertyOrder.check 0
      ((orders.map Message.propertyOrder).map .message) = .ok (orders.map id) := by
    rw [List.map_map]
    exact Checked.items_map (by intros; rfl) 0
  have groupsRead : Checked.items PropertyReference.check 0
      ((groups.map Message.propertyReference).map .message) = .ok (groups.map id) := by
    rw [List.map_map]
    exact Checked.items_map (by intros; rfl) 0
  rw [make_eq, ordersRead, groupsRead, cursorRead, limitRead, offsetRead]
  simp only [List.map_id]
  rfl

end EntityQuery
