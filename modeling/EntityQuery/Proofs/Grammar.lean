import EntityQuery.Proofs.Mirror

/-!
# What loose data is read as

The classes of messages as a grammar of loose data: for each class, what data is read as which
message. The grammar says nothing of problems and of levels; what the checks accept is read by it.

* A field is read under the name that it was given by, or has its default (`Spelling.Reads`); a
  value that may be nothing, a sequence and a mapping from texts are read part by part.
* A message of a class is read from data that is one, or from a mapping with the fields of the
  class (`Record`). Filters and composite filters contain each other, and so their two relations
  are one definition: `Filter.Reads`, `CompositeFilter.Reads`.
* `Message.reads_of_check` puts the classes together. For the classes without filters a check
  accepts just what can be read; filters can also be refused for being too deep.
-/

namespace EntityQuery

/-! ## Parts of data -/

/-- A field of a mapping is read as what it is given as, or as its default if it is not given and
has one. `Spelling.given?` decides between the two names of a field. -/
def Spelling.Reads {α : Type} (field : Spelling) (default? : Option α) (reads : Value → α → Prop)
    (entries : List (Value × Value)) (a : α) : Prop :=
  match field.given? entries with
  | some (_, v) => reads v a
  | none => default? = some a

/-- What is found for a name is the value of an entry. -/
theorem Entries.mem_of_get? {entries : List (Value × Value)} {name : String} {v : Value}
    (found : Entries.get? name entries = some v) : ∃ e ∈ entries, e.2 = v := by
  induction entries with
  | nil => cases found
  | cons e rest ih =>
      rw [get?] at found
      split at found
      · exact ⟨e, List.mem_cons_self, Option.some.inj found⟩
      · obtain ⟨e', he, same⟩ := ih found
        exact ⟨e', List.mem_cons_of_mem _ he, same⟩

/-- What is given for a field is the value of an entry. -/
theorem Spelling.mem_of_given? {field : Spelling} {entries : List (Value × Value)} {name : String}
    {v : Value} (given : field.given? entries = some (name, v)) : ∃ e ∈ entries, e.2 = v := by
  unfold given? at given
  cases wire : Entries.get? field.wire entries with
  | some w =>
      rw [wire] at given
      cases given
      exact Entries.mem_of_get? wire
  | none =>
      cases plain : Entries.get? field.plain entries with
      | some w =>
          rw [wire, plain] at given
          cases given
          exact Entries.mem_of_get? plain
      | none =>
          rw [wire, plain] at given
          cases given

namespace Value

variable {α : Type}

/-- A value is nothing if nothing is seen of it. -/
theorem isNone_iff {v : Value} : v.isNone = true ↔ v.content = .none := by
  refine ⟨content_of_isNone, fun seen => ?_⟩
  induction v using Value.content.induct with
  | case1 _ look ih => exact ih seen
  | case2 v notObject =>
      cases v with
      | none => rfl
      | object _ look => exact absurd rfl (notObject _ look)
      | _ => cases seen

/-- A value is read as the text that it spells. -/
def Spells (v : Value) (s : String) : Prop := v.spelling? = some s

/-- Nothing is read as nothing, and anything else as `reads` says. -/
def Optionally (reads : Value → α → Prop) (v : Value) : Option α → Prop
  | Option.none => v.isNone = true
  | some a => v.isNone = false ∧ reads v a

/-- A sequence is read item by item. -/
def Lists (reads : Value → α → Prop) (v : Value) (l : List α) : Prop :=
  ∃ items, v.sequence? = some items ∧ List.Forall₂ reads items l

/-- The mapping from texts that entries make, each by what its key spells: a later one takes the
place of an earlier one with the same spelling. A member spells a text too, so two keys may fall
together. -/
def spelt (entries : List (Value × Value)) : List (String × Value) :=
  entries.foldl (fun fields e => setText (e.1.spelling?.getD "") e.2 fields) []

/-- A mapping all of whose keys spell texts is read as a mapping from texts. -/
def MapsTexts (v : Value) (fields : List (String × Value)) : Prop :=
  ∃ entries, v.content = .mapping entries ∧ (∀ e ∈ entries, e.1.spelling?.isSome = true) ∧
    fields = spelt entries

end Value

/-- Data is read as a record: it is a message that is one, or a mapping that has its fields. Every
class but the bare one is read in this way. -/
inductive Record {α : Type} (wrap : α → Message Value)
    (fields : List (Value × Value) → α → Prop) (v : Value) (a : α) : Prop where
  | taken (seen : v.content = .message (wrap a))
  | given {entries : List (Value × Value)} (seen : v.content = .mapping entries)
      (each : fields entries a)

section

variable {α β : Type} {check : Value → Checked α} {reads reads' : Value → α → Prop}

theorem Spelling.Reads.mono {field : Spelling} {default? : Option α}
    {entries : List (Value × Value)} {a : α} (h : field.Reads default? reads entries a)
    (weaken : ∀ {v a}, reads v a → reads' v a) : field.Reads default? reads' entries a := by
  unfold Spelling.Reads at h ⊢
  split at h
  · exact weaken h
  · exact h

theorem Value.Optionally.mono {v : Value} {x : Option α} (h : v.Optionally reads x)
    (weaken : ∀ {v a}, reads v a → reads' v a) : v.Optionally reads' x := by
  cases x with
  | none => exact h
  | some a => exact ⟨h.1, weaken h.2⟩

theorem Value.Lists.mono {v : Value} {l : List α} (h : v.Lists reads l)
    (weaken : ∀ {v a}, reads v a → reads' v a) : v.Lists reads' l := by
  obtain ⟨items, seen, each⟩ := h
  exact ⟨items, seen, each.imp fun _ _ => weaken⟩

/-- `Spelling.required` accepts what `Reads` reads, for any check of the value. -/
theorem Spelling.required_eq_ok_iff {field : Spelling} {entries : List (Value × Value)} {a : α} :
    field.required check entries = .ok a ↔
      field.Reads none (fun v a => check v = .ok a) entries a := by
  unfold required find? Spelling.Reads
  cases field.given? entries <;> simp

theorem Spelling.defaulted_eq_ok_iff {field : Spelling} {absent : α}
    {entries : List (Value × Value)} {a : α} :
    field.defaulted absent check entries = .ok a ↔
      field.Reads (some absent) (fun v a => check v = .ok a) entries a := by
  unfold defaulted find? Spelling.Reads
  cases field.given? entries <;> simp

theorem checkOptional_eq_ok_iff {v : Value} {x : Option α} :
    checkOptional check v = .ok x ↔ v.Optionally (fun v a => check v = .ok a) x := by
  unfold checkOptional
  cases isNone : v.isNone with
  | true => cases x <;> simp [Value.Optionally, isNone]
  | false =>
      cases x <;> cases result : check v <;>
        simp [Value.Optionally, isNone, Except.map, result]

theorem Checked.items_eq_ok_iff_forall₂ {items : List Value} {l : List α} {index : Nat} :
    Checked.items check index items = .ok l ↔
      List.Forall₂ (fun v a => check v = .ok a) items l := by
  induction items generalizing l index with
  | nil => cases l <;> simp [Checked.items]
  | cons v rest ih =>
      rw [Checked.items, Checked.and_eq_ok]
      cases l with
      | nil => simp [Checked.and_eq_ok]
      | cons a l => simp [Checked.and_eq_ok, ih]

theorem checkSequence_eq_ok_iff {v : Value} {l : List α} :
    checkSequence check v = .ok l ↔ v.Lists (fun v a => check v = .ok a) l := by
  unfold checkSequence Value.Lists
  cases v.sequence? with
  | none => simp [Checked.complain]
  | some items => simp [Checked.items_eq_ok_iff_forall₂]

end

theorem checkText_eq_ok_iff {v : Value} {s : String} : checkText v = .ok s ↔ v.Spells s := by
  rw [checkText_eq, Checked.orComplain_eq_ok_iff]
  rfl

theorem checkEntries_eq_ok_iff {entries : List (Value × Value)}
    {before fields : List (String × Value)} :
    checkEntries before entries = .ok fields ↔
      (∀ e ∈ entries, e.1.spelling?.isSome = true) ∧
        fields = entries.foldl (fun fields e => setText (e.1.spelling?.getD "") e.2 fields)
          before := by
  induction entries generalizing before with
  | nil =>
      rw [checkEntries, Except.ok.injEq]
      exact ⟨fun same => ⟨by simp, same.symm⟩, fun h => h.2.symm⟩
  | cons e rest ih =>
      obtain ⟨k, v⟩ := e
      rw [checkEntries, checkText_eq]
      cases spelling : k.spelling? with
      | some s => simp [Checked.orComplain, ih, spelling]
      | none =>
          -- A key that spells nothing is a problem, whatever comes after it.
          simp [Checked.orComplain, Checked.complain, Checked.and_eq_ok, Checked.under, spelling]

theorem checkMapping_eq_ok_iff {v : Value} {fields : List (String × Value)} :
    checkMapping v = .ok fields ↔ v.MapsTexts fields := by
  unfold checkMapping Value.MapsTexts
  split
  · rename_i entries seen
    simp [checkEntries_eq_ok_iff, seen, Value.spelt]
  · rename_i other
    constructor
    · intro h; cases h
    · rintro ⟨entries, seen, -⟩
      exact absurd seen (other entries)

/-! ## The flat classes -/

/-- A message is made of data that is one, or of the fields of a mapping. -/
theorem record_iff {α : Type} {wrap : α → Message Value}
    {fields : List (Value × Value) → α → Prop} {v : Value} {a : α} :
    Record wrap fields v a ↔ v.content = .message (wrap a) ∨
      ∃ entries, v.content = .mapping entries ∧ fields entries a := by
  constructor
  · rintro (seen | ⟨seen, each⟩)
    · exact .inl seen
    · exact .inr ⟨_, seen, each⟩
  · rintro (seen | ⟨entries, seen, each⟩)
    · exact .taken seen
    · exact .given seen each

/-- A kind is read by its name. -/
def KindExpression.Reads : Value → KindExpression → Prop :=
  Record .kindExpression fun entries m => Field.name.Reads none Value.Spells entries m.name

theorem KindExpression.check_eq_ok_iff {v : Value} {m : KindExpression} :
    check v = .ok m ↔ Reads v m := by
  obtain ⟨name⟩ := m
  rw [Reads, record_iff]
  unfold check
  split <;> simp_all [Checked.complain, ofEntries, Checked.and_eq_ok, Spelling.required_eq_ok_iff,
    checkText_eq_ok_iff]

/-- A property is referred to by its name. -/
def PropertyReference.Reads : Value → PropertyReference → Prop :=
  Record .propertyReference fun entries m => Field.name.Reads none Value.Spells entries m.name

theorem PropertyReference.check_eq_ok_iff {v : Value} {m : PropertyReference} :
    check v = .ok m ↔ Reads v m := by
  obtain ⟨name⟩ := m
  rw [Reads, record_iff]
  unfold check
  split <;> simp_all [Checked.complain, ofEntries, Checked.and_eq_ok, Spelling.required_eq_ok_iff,
    checkText_eq_ok_iff]

/-- A projection has a property. -/
def Projection.Reads : Value → Projection → Prop :=
  Record .projection fun entries m =>
    Field.property.Reads none PropertyReference.Reads entries m.property

theorem Projection.check_eq_ok_iff {v : Value} {m : Projection} :
    check v = .ok m ↔ Reads v m := by
  obtain ⟨property⟩ := m
  rw [Reads, record_iff]
  unfold check
  split <;> simp_all [Checked.complain, ofEntries, Checked.and_eq_ok, Spelling.required_eq_ok_iff,
    PropertyReference.check_eq_ok_iff]

/-- A value is read as the direction that it spells. -/
def Value.direction? (v : Value) : Option Direction := v.spelling?.bind Direction.ofSpelling?

theorem checkDirection_eq_ok_iff {v : Value} {d : Direction} :
    checkDirection v = .ok d ↔ v.direction? = some d :=
  checkMember_eq_ok_iff

/-- A sort key has a property, and is ascending unless it says otherwise. -/
def PropertyOrder.Reads : Value → PropertyOrder → Prop :=
  Record .propertyOrder fun entries m =>
    Field.property.Reads none PropertyReference.Reads entries m.property ∧
      Field.direction.Reads (some .ascending) (fun v d => v.direction? = some d) entries m.direction

theorem PropertyOrder.check_eq_ok_iff {v : Value} {m : PropertyOrder} :
    check v = .ok m ↔ Reads v m := by
  obtain ⟨property, direction⟩ := m
  rw [Reads, record_iff]
  unfold check
  split <;> simp_all [Checked.complain, ofEntries, Checked.and_eq_ok, Spelling.required_eq_ok_iff,
    Spelling.defaulted_eq_ok_iff, PropertyReference.check_eq_ok_iff, checkDirection_eq_ok_iff]

/-- A property filter has a property, an operator and a mapping from texts, which it copies. -/
def PropertyFilter.Reads : Value → PropertyFilter Value → Prop :=
  Record .propertyFilter fun entries m =>
    Field.property.Reads none PropertyReference.Reads entries m.property ∧
      Field.op.Reads none (fun v op => v.propertyOperator? = some op) entries m.op ∧
      Field.value.Reads none Value.MapsTexts entries m.value ∧ m.mark = none

theorem checkPropertyOperator_eq_ok_iff {v : Value} {op : PropertyOperator} :
    checkPropertyOperator v = .ok op ↔ v.propertyOperator? = some op :=
  checkMember_eq_ok_iff

theorem PropertyFilter.check_eq_ok_iff {v : Value} {m : PropertyFilter Value} :
    check v = .ok m ↔ Reads v m := by
  obtain ⟨property, op, value, mark⟩ := m
  rw [Reads, record_iff]
  unfold check
  split <;> simp_all [Checked.complain, ofEntries, Checked.and_eq_ok, Spelling.required_eq_ok_iff,
    PropertyReference.check_eq_ok_iff, checkPropertyOperator_eq_ok_iff, checkMapping_eq_ok_iff]
  exact fun _ _ _ => eq_comm

/-- A partition may have both of its fields or neither. -/
def PartitionId.Reads : Value → PartitionId → Prop :=
  Record .partitionId fun entries m =>
    Field.projectId.Reads (some none) (Value.Optionally Value.Spells) entries m.projectId ∧
      Field.namespaceId.Reads (some none) (Value.Optionally Value.Spells) entries m.namespaceId

theorem PartitionId.check_eq_ok_iff {v : Value} {m : PartitionId} :
    check v = .ok m ↔ Reads v m := by
  obtain ⟨projectId, namespaceId⟩ := m
  rw [Reads, record_iff]
  unfold check
  split <;> simp_all [Checked.complain, ofEntries, Checked.and_eq_ok,
    Spelling.defaulted_eq_ok_iff, checkOptional_eq_ok_iff, checkText_eq_ok_iff]

/-! ## Filters -/

/-- A field is absent: it is not given, or it is given as nothing. -/
def Spelling.IsAbsent (field : Spelling) (entries : List (Value × Value)) : Prop :=
  ∀ name v, field.given? entries = some (name, v) → v.isNone = true

mutual

/-- Data is read as a filter: it is one, or it is a mapping with exactly one of the two parts. There
are no levels and no guard in this; `checkIn` is compared with it. -/
inductive Filter.Reads : Value → Filter Value → Prop where
  | taken {v : Value} {f : Filter Value} (seen : v.content = .message (.filter f)) :
      Filter.Reads v f
  | property {v : Value} {entries : List (Value × Value)} {name : String} {part : Value}
      {m : PropertyFilter Value} (seen : v.content = .mapping entries)
      (given : Field.propertyFilter.given? entries = some (name, part))
      (present : part.isNone = false) (reads : PropertyFilter.Reads part m)
      (other : Field.compositeFilter.IsAbsent entries) : Filter.Reads v (.property m)
  | composite {v : Value} {entries : List (Value × Value)} {name : String} {part : Value}
      {c : CompositeFilter Value} (seen : v.content = .mapping entries)
      (other : Field.propertyFilter.IsAbsent entries)
      (given : Field.compositeFilter.given? entries = some (name, part))
      (present : part.isNone = false) (reads : CompositeFilter.Reads part c) :
      Filter.Reads v (.composite c.op c.filters c.mark)

/-- Data is read as a composite filter: it is one, or it is a mapping with an operator, `and` unless
it says otherwise, and with a sequence of filters, none unless it says otherwise. -/
inductive CompositeFilter.Reads : Value → CompositeFilter Value → Prop where
  | taken {v : Value} {c : CompositeFilter Value}
      (seen : v.content = .message (.compositeFilter c)) : CompositeFilter.Reads v c
  | fields {v : Value} {entries : List (Value × Value)} {op : CompositeOperator}
      {items : List Value} {filters : List (Filter Value)} (seen : v.content = .mapping entries)
      (operator :
        Field.op.Reads (some .and) (fun v op => v.compositeOperator? = some op) entries op)
      (sequence : Field.filters.Reads (some []) (fun v items => v.sequence? = some items) entries
        items)
      (length : items.length = filters.length)
      (each : ∀ p ∈ items.zip filters, Filter.Reads p.1 p.2) :
      CompositeFilter.Reads v ⟨op, filters, none⟩

end

/-- The two parts of a filter are read, where each may be absent. It is `Filter.Reads` before the
parts are counted. -/
structure Filter.PartsRead (entries : List (Value × Value))
    (property : Option (PropertyFilter Value)) (composite : Option (CompositeFilter Value)) :
    Prop where
  property : Field.propertyFilter.Reads (some none) (Value.Optionally PropertyFilter.Reads) entries
    property
  composite : Field.compositeFilter.Reads (some none) (Value.Optionally CompositeFilter.Reads)
    entries composite

theorem Spelling.isAbsent_iff {α : Type} {field : Spelling} {reads : Value → α → Prop}
    {entries : List (Value × Value)} :
    field.IsAbsent entries ↔ field.Reads (some none) (Value.Optionally reads) entries none := by
  unfold IsAbsent Spelling.Reads
  cases field.given? entries with
  | none => simp
  | some given =>
      constructor
      · exact fun absent => absent given.1 given.2 rfl
      · rintro absent _ _ ⟨⟩
        exact absent

theorem Spelling.reads_some_iff {α : Type} {field : Spelling} {reads : Value → α → Prop}
    {entries : List (Value × Value)} {a : α} :
    field.Reads (some none) (Value.Optionally reads) entries (some a) ↔
      ∃ name part, field.given? entries = some (name, part) ∧ part.isNone = false ∧
        reads part a := by
  unfold Spelling.Reads
  cases field.given? entries with
  | none => simp
  | some given =>
      constructor
      · exact fun read => ⟨given.1, given.2, rfl, read⟩
      · rintro ⟨_, _, ⟨⟩, read⟩
        exact read

/-- A filter is read by its parts, if it has exactly one of them. -/
theorem Filter.reads_iff {v : Value} {f : Filter Value} :
    Reads v f ↔ v.content = .message (.filter f) ∨
      ∃ entries property composite, v.content = .mapping entries ∧
        PartsRead entries property composite ∧ ofParts property composite = .ok f := by
  constructor
  · rintro (seen | ⟨seen, given, present, reads, other⟩ | ⟨seen, other, given, present, reads⟩)
    · exact .inl seen
    · exact .inr ⟨_, _, none, seen, ⟨Spelling.reads_some_iff.mpr ⟨_, _, given, present, reads⟩,
        Spelling.isAbsent_iff.mp other⟩, rfl⟩
    · exact .inr ⟨_, none, _, seen, ⟨Spelling.isAbsent_iff.mp other,
        Spelling.reads_some_iff.mpr ⟨_, _, given, present, reads⟩⟩, rfl⟩
  · rintro (seen | ⟨entries, property, composite, seen, parts, one⟩)
    · exact .taken seen
    · cases property <;> cases composite <;> cases one
      · obtain ⟨name, part, given, present, reads⟩ := Spelling.reads_some_iff.mp parts.composite
        exact .composite seen (Spelling.isAbsent_iff.mpr parts.property) given present reads
      · obtain ⟨name, part, given, present, reads⟩ := Spelling.reads_some_iff.mp parts.property
        exact .property seen given present reads (Spelling.isAbsent_iff.mpr parts.composite)

/-- `ofCheckedParts` succeeds if both parts are accepted and `ofParts` makes a filter of them, and
neither of them hides a complaint about the other. -/
theorem Filter.ofCheckedParts_eq_ok_iff {property : Checked (Option (PropertyFilter Value))}
    {composite : Checked (Option (CompositeFilter Value))} {f : Filter Value} :
    ofCheckedParts property composite = .ok f ↔
      ∃ x y, property = .ok x ∧ composite = .ok y ∧ ofParts x y = .ok f := by
  rcases property with (_ | _) | x <;> rcases composite with (_ | _) | y <;>
    simp [ofCheckedParts, Checked.and, bind, Except.bind]

section

variable {check : Value → Descent (Filter Value)} {refused : List Value}

theorem Spelling.descend_eq_ok_iff {α : Type} {field : Spelling} {absent : α}
    {check : Value → Descent α} {entries : List (Value × Value)} {a : α} :
    (field.descend absent check entries refused).1 = .ok a ↔
      field.Reads (some absent) (fun v a => (check v refused).1 = .ok a) entries a := by
  unfold descend Spelling.Reads
  cases field.given? entries <;> simp

theorem Filter.checkSequence_eq_ok_iff {v : Value} {filters : List (Filter Value)} :
    (checkSequence check v refused).1 = .ok filters ↔
      ∃ items, v.sequence? = some items ∧ (checkItems check 0 items refused).1 = .ok filters := by
  unfold checkSequence
  cases v.sequence? <;> simp [Checked.complain]

theorem CompositeFilter.descend_eq_ok_iff {entries : List (Value × Value)}
    {c : CompositeFilter Value} :
    (descend check entries refused).1 = .ok c ↔
      Field.op.Reads (some .and) (fun v op => v.compositeOperator? = some op) entries c.op ∧
        Field.filters.Reads (some [])
          (fun v filters => (Filter.checkSequence check v refused).1 = .ok filters) entries
          c.filters ∧ c.mark = none := by
  obtain ⟨op, filters, mark⟩ := c
  have operator : ∀ {v : Value} {op}, checkCompositeOperator v = .ok op ↔
      v.compositeOperator? = some op := checkMember_eq_ok_iff
  simp [descend, Checked.and_eq_ok, Spelling.defaulted_eq_ok_iff, Spelling.descend_eq_ok_iff,
    operator]
  exact fun _ _ => eq_comm

theorem CompositeFilter.descend?_eq_ok_iff {v : Value} {y : Option (CompositeFilter Value)} :
    (descend? check v refused).1 = .ok y ↔
      v.Optionally (Record .compositeFilter fun entries c =>
        (descend check entries refused).1 = .ok c) y := by
  unfold descend?
  cases y with
  | none =>
      simp only [Value.Optionally, Value.isNone_iff]
      split <;> simp_all [Checked.complain]
      rename_i entries _
      cases (descend check entries refused).1 <;> simp [Except.map]
  | some c =>
      simp only [Value.Optionally, ← Bool.not_eq_true, Value.isNone_iff, record_iff]
      split <;> simp_all [Checked.complain]
      rename_i entries _
      cases (descend check entries refused).1 <;> simp [Except.map]

/-- Where only what can be read is accepted, only what can be read is accepted item by item. What
has been `refused` changes from item to item, so `each` is for all of it. -/
theorem Filter.reads_of_checkItems
    (each : ∀ {v refused f}, (check v refused).1 = .ok f → Filter.Reads v f) {items : List Value}
    {filters : List (Filter Value)} {index : Nat}
    (accepted : (checkItems check index items refused).1 = .ok filters) :
    List.Forall₂ Filter.Reads items filters := by
  induction items generalizing filters index refused with
  | nil =>
      obtain rfl := Except.ok.inj accepted
      exact .nil
  | cons v rest ih =>
      simp only [checkItems, Checked.and_eq_ok, Checked.under_eq_ok, Except.ok.injEq] at accepted
      obtain ⟨_, others, ⟨_, f, rfl, first, rfl⟩, later, rfl⟩ := accepted
      exact .cons (each first) (ih later)

theorem CompositeFilter.reads_of_descend?
    (each : ∀ {v refused f}, (check v refused).1 = .ok f → Filter.Reads v f) {v : Value}
    {y : Option (CompositeFilter Value)} (accepted : (descend? check v refused).1 = .ok y) :
    v.Optionally Reads y := by
  refine (descend?_eq_ok_iff.mp accepted).mono fun record => ?_
  rcases record with seen | ⟨seen, fields⟩
  · exact .taken seen
  · obtain ⟨operator, sequence, mark⟩ := descend_eq_ok_iff.mp fields
    rename_i c entries
    obtain ⟨op, filters, _⟩ := c
    obtain rfl := mark
    have read : ∃ items, Field.filters.Reads (some []) (fun v items => v.sequence? = some items)
        entries items ∧ List.Forall₂ Filter.Reads items filters := by
      unfold Spelling.Reads at sequence ⊢
      split at sequence
      · obtain ⟨items, seen, accepted⟩ := Filter.checkSequence_eq_ok_iff.mp sequence
        exact ⟨items, seen, Filter.reads_of_checkItems each accepted⟩
      · obtain rfl := Option.some.inj sequence
        exact ⟨[], rfl, .nil⟩
    obtain ⟨items, given, reads⟩ := read
    obtain ⟨length, zip⟩ := List.forall₂_iff_zip.mp reads
    exact .fields seen operator given length fun p hp => zip hp

end

/-- `Filter.checkIn` with a level left: it accepts nothing that is refused already, and else a
filter or the two parts of one. -/
theorem Filter.checkIn_succ_eq_ok_iff {levels : Nat} {inside : List Nat} {v : Value}
    {refused : List Value} {f : Filter Value} :
    (checkIn (levels + 1) inside v refused).1 = .ok f ↔
      (v.isAmong inside || refused.any v.identical) = false ∧
        (v.content = .message (.filter f) ∨
          ∃ entries property composite, v.content = .mapping entries ∧
            Field.propertyFilter.Reads (some none) (Value.Optionally PropertyFilter.Reads) entries
              property ∧
            Field.compositeFilter.Reads (some none) (fun w y =>
              (CompositeFilter.descend? (checkIn levels (v.place?.toList ++ inside)) w refused).1 =
                .ok y) entries composite ∧
            ofParts property composite = .ok f) := by
  rw [checkIn]
  cases again : v.isAmong inside || refused.any v.identical with
  | true => simp [Checked.complain]
  | false =>
      simp only [Bool.false_eq_true, if_false, true_and]
      split
      · simp_all
      · rename_i entries seen
        simp [seen, ofCheckedParts_eq_ok_iff, Spelling.defaulted_eq_ok_iff,
          Spelling.descend_eq_ok_iff, checkOptional_eq_ok_iff, PropertyFilter.check_eq_ok_iff]
      · simp_all [Checked.complain]

/-- What `Filter.checkIn` accepts is read as the filter, by induction on the levels that are left.
The converse takes a bound on the depth, and comes with `Filter.validate_plain`. -/
theorem Filter.reads_of_checkIn {levels : Nat} {inside : List Nat} {v : Value}
    {refused : List Value} {f : Filter Value}
    (accepted : (checkIn levels inside v refused).1 = .ok f) : Reads v f := by
  induction levels generalizing inside v refused f with
  | zero =>
      rw [checkIn] at accepted
      split at accepted <;> cases accepted
  | succ levels ih =>
      rw [reads_iff]
      obtain ⟨-, seen | ⟨entries, x, y, seen, property, composite, one⟩⟩ :=
        checkIn_succ_eq_ok_iff.mp accepted
      · exact .inl seen
      · exact .inr ⟨entries, x, y, seen,
          ⟨property, composite.mono (CompositeFilter.reads_of_descend? ih)⟩, one⟩

/-- So is what is accepted for a composite filter of its own. -/
theorem CompositeFilter.reads_of_check {v : Value} {c : CompositeFilter Value}
    (accepted : check v = .ok c) : Reads v c := by
  have optional : (descend? Filter.checkInMessage v []).1 = .ok (some c) := by
    unfold check at accepted
    unfold descend?
    split at accepted <;> rename_i seen
    · obtain rfl := Except.ok.inj accepted
      rw [seen]
    · rw [seen]
      exact congrArg (Except.map some) accepted
    · cases accepted
  exact (reads_of_descend? Filter.reads_of_checkIn optional).2

/-! ## Compiled queries and requests -/

/-- A compiled query may leave out any of its fields. -/
def QueryMessage.Reads : Value → QueryMessage Value → Prop :=
  Record .query fun entries m =>
    Field.kinds.Reads (some []) (Value.Lists KindExpression.Reads) entries m.kinds ∧
      Field.projections.Reads (some []) (Value.Lists Projection.Reads) entries m.projections ∧
      Field.filter.Reads (some none) (Value.Optionally Filter.Reads) entries m.filter ∧
      Field.orders.Reads (some []) (Value.Lists PropertyOrder.Reads) entries m.orders ∧
      Field.distinctOn.Reads (some []) (Value.Lists PropertyReference.Reads) entries m.distinctOn ∧
      Field.startCursor.Reads (some none) (Value.Optionally fun v b => v.byteString? = some b)
        entries m.startCursor ∧
      Field.limit.Reads (some none) (Value.Optionally fun v n => v.integer? = some n) entries
        m.limit ∧
      Field.offset.Reads (some 0) (fun v n => v.integer? = some n) entries m.offset

/-- What is accepted for a compiled query is read as one. -/
theorem QueryMessage.reads_of_check {v : Value} {m : QueryMessage Value}
    (accepted : check v = .ok m) : Reads v m := by
  have bytes : ∀ {v : Value} {b}, checkBytes v = .ok b ↔ v.byteString? = some b := by
    intro v b
    rw [checkBytes_eq, Checked.orComplain_eq_ok_iff]
  have integer : ∀ {v : Value} {n}, checkInteger v = .ok n ↔ v.integer? = some n := by
    intro v n
    rw [checkInteger_eq, Checked.orComplain_eq_ok_iff]
  unfold check at accepted
  split at accepted <;> rename_i seen
  · obtain rfl := Except.ok.inj accepted
    exact .taken seen
  · -- The fields are taken off one by one, the last one first.
    obtain ⟨_, _, rest₇, offset, rfl⟩ := Checked.and_eq_ok.mp accepted
    obtain ⟨_, _, rest₆, limit, rfl⟩ := Checked.and_eq_ok.mp rest₇
    obtain ⟨_, _, rest₅, startCursor, rfl⟩ := Checked.and_eq_ok.mp rest₆
    obtain ⟨_, _, rest₄, distinctOn, rfl⟩ := Checked.and_eq_ok.mp rest₅
    obtain ⟨_, _, rest₃, orders, rfl⟩ := Checked.and_eq_ok.mp rest₄
    obtain ⟨_, _, rest₂, filter, rfl⟩ := Checked.and_eq_ok.mp rest₃
    obtain ⟨_, _, rest₁, projections, rfl⟩ := Checked.and_eq_ok.mp rest₂
    obtain ⟨_, _, rest₀, kinds, rfl⟩ := Checked.and_eq_ok.mp rest₁
    obtain rfl := Except.ok.inj rest₀
    refine .given seen ⟨?_, ?_, ?_, ?_, ?_, ?_, ?_, ?_⟩
    · exact (Spelling.defaulted_eq_ok_iff.mp kinds).mono fun read =>
        (checkSequence_eq_ok_iff.mp read).mono KindExpression.check_eq_ok_iff.mp
    · exact (Spelling.defaulted_eq_ok_iff.mp projections).mono fun read =>
        (checkSequence_eq_ok_iff.mp read).mono Projection.check_eq_ok_iff.mp
    · exact (Spelling.defaulted_eq_ok_iff.mp filter).mono fun read =>
        (checkOptional_eq_ok_iff.mp read).mono Filter.reads_of_checkIn
    · exact (Spelling.defaulted_eq_ok_iff.mp orders).mono fun read =>
        (checkSequence_eq_ok_iff.mp read).mono PropertyOrder.check_eq_ok_iff.mp
    · exact (Spelling.defaulted_eq_ok_iff.mp distinctOn).mono fun read =>
        (checkSequence_eq_ok_iff.mp read).mono PropertyReference.check_eq_ok_iff.mp
    · exact (Spelling.defaulted_eq_ok_iff.mp startCursor).mono fun read =>
        (checkOptional_eq_ok_iff.mp read).mono bytes.mp
    · exact (Spelling.defaulted_eq_ok_iff.mp limit).mono fun read =>
        (checkOptional_eq_ok_iff.mp read).mono integer.mp
    · exact (Spelling.defaulted_eq_ok_iff.mp offset).mono integer.mp
  · cases accepted

/-- A request has both of its fields. -/
def RequestMessage.Reads : Value → RequestMessage Value → Prop :=
  Record .request fun entries m =>
    Field.partitionId.Reads none PartitionId.Reads entries m.partitionId ∧
      Field.query.Reads none QueryMessage.Reads entries m.query

/-- What is accepted for a request is read as one. -/
theorem RequestMessage.reads_of_check {v : Value} {m : RequestMessage Value}
    (accepted : check v = .ok m) : Reads v m := by
  obtain ⟨partition, query⟩ := m
  unfold check at accepted
  split at accepted <;> rename_i seen
  · obtain rfl := Except.ok.inj accepted
    exact .taken seen
  · simp [ofEntries, Checked.and_eq_ok, Spelling.required_eq_ok_iff,
      PartitionId.check_eq_ok_iff] at accepted
    obtain ⟨partition, query⟩ := accepted
    exact .given seen ⟨partition, query.mono QueryMessage.reads_of_check⟩
  · cases accepted

/-- Data is read as a message of a class. Any message is one of the bare class, and any mapping is
read as the bare message. -/
def Message.Reads (v : Value) : MessageClass → Message Value → Prop
  | .bare, m => v.content = .message m ∨ (∃ entries, v.content = .mapping entries) ∧ m = .bare
  | .kindExpression, .kindExpression m => m.Reads v
  | .propertyReference, .propertyReference m => m.Reads v
  | .projection, .projection m => m.Reads v
  | .propertyOrder, .propertyOrder m => m.Reads v
  | .propertyFilter, .propertyFilter m => m.Reads v
  | .compositeFilter, .compositeFilter m => m.Reads v
  | .filter, .filter f => f.Reads v
  | .query, .query m => m.Reads v
  | .partitionId, .partitionId m => m.Reads v
  | .request, .request m => m.Reads v
  | _, _ => False

/-- What is accepted for a message of a class is read as one. -/
theorem Message.reads_of_check {cls : MessageClass} {v : Value} {m : Message Value}
    (accepted : check cls v = .ok m) : m.Reads v cls := by
  cases cls with
  | bare =>
      simp only [check, checkBare] at accepted
      split at accepted <;> rename_i seen
      · exact .inl (Except.ok.inj accepted ▸ seen)
      · exact .inr ⟨⟨_, seen⟩, (Except.ok.inj accepted).symm⟩
      · cases accepted
  | kindExpression =>
      obtain ⟨a, read, rfl⟩ := map_eq_ok_iff.mp accepted
      exact KindExpression.check_eq_ok_iff.mp read
  | propertyReference =>
      obtain ⟨a, read, rfl⟩ := map_eq_ok_iff.mp accepted
      exact PropertyReference.check_eq_ok_iff.mp read
  | projection =>
      obtain ⟨a, read, rfl⟩ := map_eq_ok_iff.mp accepted
      exact Projection.check_eq_ok_iff.mp read
  | propertyOrder =>
      obtain ⟨a, read, rfl⟩ := map_eq_ok_iff.mp accepted
      exact PropertyOrder.check_eq_ok_iff.mp read
  | propertyFilter =>
      obtain ⟨a, read, rfl⟩ := map_eq_ok_iff.mp accepted
      exact PropertyFilter.check_eq_ok_iff.mp read
  | compositeFilter =>
      obtain ⟨a, read, rfl⟩ := map_eq_ok_iff.mp accepted
      exact CompositeFilter.reads_of_check read
  | filter =>
      obtain ⟨a, read, rfl⟩ := map_eq_ok_iff.mp accepted
      exact Filter.reads_of_checkIn read
  | query =>
      obtain ⟨a, read, rfl⟩ := map_eq_ok_iff.mp accepted
      exact QueryMessage.reads_of_check read
  | partitionId =>
      obtain ⟨a, read, rfl⟩ := map_eq_ok_iff.mp accepted
      exact PartitionId.check_eq_ok_iff.mp read
  | request =>
      obtain ⟨a, read, rfl⟩ := map_eq_ok_iff.mp accepted
      exact RequestMessage.reads_of_check read

end EntityQuery
