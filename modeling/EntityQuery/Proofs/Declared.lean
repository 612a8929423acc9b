import EntityQuery.Proofs.Grammar

/-!
# What the classes of messages declare

Each class of messages declares its fields by name and type. Loose data may keep to that or not: a
mapping for a filter can have both of its parts or none, an operator can be a number, and a list of
filters can hold anything.

* `MessageClass.declared` is the table of the declarations, and `FieldType.Admits` says that data
  has the form of a type, at every depth. A message inside of the data is looked into by its
  attributes (`Message.fields`), as untyped data like any other.
* `Message.admits_of_reads` is what the checks are for: `Message.Reads` relates data to the message
  that is made of it, and only data of the declared form is read at all.
-/

namespace EntityQuery

/-! ## Declarations -/

/-- The types that the fields of messages are declared to have. They are types of data, and say
nothing of `Message` or its Lean types. -/
inductive FieldType where
  | text
  | bytes
  | integer
  /-- A mapping from texts. -/
  | mapping
  | member (enumeration : Enumeration)
  | message (cls : MessageClass)
  /-- What may be nothing. -/
  | optional (type : FieldType)
  | sequence (item : FieldType)

/-- A field that a class declares. It may be left out where it has a default. -/
structure Declaration where
  field : Spelling
  type : FieldType
  required : Bool

/-- The fields that a class declares, with both names, type and whether they have to be given. -/
def MessageClass.declared : MessageClass → List Declaration
  | bare => []
  | kindExpression | propertyReference => [⟨Field.name, .text, true⟩]
  | projection => [⟨Field.property, .message propertyReference, true⟩]
  | propertyOrder =>
      [⟨Field.property, .message propertyReference, true⟩,
        ⟨Field.direction, .member .direction, false⟩]
  | propertyFilter =>
      [⟨Field.property, .message propertyReference, true⟩,
        ⟨Field.op, .member .propertyOperator, true⟩, ⟨Field.value, .mapping, true⟩]
  | compositeFilter =>
      [⟨Field.op, .member .compositeOperator, false⟩,
        ⟨Field.filters, .sequence (.message filter), false⟩]
  | filter =>
      [⟨Field.propertyFilter, .optional (.message propertyFilter), false⟩,
        ⟨Field.compositeFilter, .optional (.message compositeFilter), false⟩]
  | query =>
      [⟨Field.kinds, .sequence (.message kindExpression), false⟩,
        ⟨Field.projections, .sequence (.message projection), false⟩,
        ⟨Field.filter, .optional (.message filter), false⟩,
        ⟨Field.orders, .sequence (.message propertyOrder), false⟩,
        ⟨Field.distinctOn, .sequence (.message propertyReference), false⟩,
        ⟨Field.startCursor, .optional .bytes, false⟩, ⟨Field.limit, .optional .integer, false⟩,
        ⟨Field.offset, .integer, false⟩]
  | partitionId =>
      [⟨Field.projectId, .optional .text, false⟩, ⟨Field.namespaceId, .optional .text, false⟩]
  | request =>
      [⟨Field.partitionId, .message partitionId, true⟩, ⟨Field.query, .message query, true⟩]

/-- Is a field given as something? -/
def Spelling.isSet (field : Spelling) (entries : List (Value × Value)) : Bool :=
  (field.given? entries).any fun given => !given.2.isNone

/-- Data has the form of a type. What is a text, bytes or an integer is left to the readings that
all fields have in common, such as `Value.spelling?`. For a class, a mapping needs all of
`declared`, and exactly one part in the case of a filter, at every depth. -/
inductive FieldType.Admits : FieldType → Value → Prop where
  | text {v : Value} (spells : v.spelling?.isSome = true) : Admits text v
  | bytes {v : Value} (isBytes : v.byteString?.isSome = true) : Admits bytes v
  | integer {v : Value} (isInteger : v.integer?.isSome = true) : Admits integer v
  | mapping {v : Value} {entries : List (Value × Value)} (seen : v.content = .mapping entries)
      (keys : ∀ e ∈ entries, e.1.spelling?.isSome = true) : Admits mapping v
  | member {enumeration : Enumeration} {v : Value}
      (names : (v.spelling?.bind enumeration.find?).isSome = true) : Admits (member enumeration) v
  | nothing {type : FieldType} {v : Value} (isNone : v.isNone = true) : Admits (optional type) v
  | something {type : FieldType} {v : Value} (admits : Admits type v) : Admits (optional type) v
  | sequence {item : FieldType} {v : Value} {items : List Value} (seen : v.sequence? = some items)
      (each : ∀ w ∈ items, Admits item w) : Admits (sequence item) v
  /-- A message of the class, all of whose attributes have the form that the class declares. -/
  | taken {cls : MessageClass} {v : Value} {m : Message Value} (seen : v.content = .message m)
      (ofClass : cls = .bare ∨ m.cls = cls)
      (attributes : Admits (message m.cls) (.ofTexts m.fields)) : Admits (message cls) v
  /-- A mapping with the fields of the class; of a filter, exactly one is given as something. -/
  | given {cls : MessageClass} {v : Value} {entries : List (Value × Value)}
      (seen : v.content = .mapping entries)
      (required : ∀ d ∈ cls.declared, d.required = true → (d.field.given? entries).isSome = true)
      (each : ∀ d ∈ cls.declared, ∀ name w, d.field.given? entries = some (name, w) →
        Admits d.type w)
      (exactlyOne : cls = .filter →
        Field.propertyFilter.isSet entries ≠ Field.compositeFilter.isSet entries) :
      Admits (message cls) v

namespace FieldType

variable {α : Type} {d : Declaration} {type : FieldType} {field : Spelling}
  {entries : List (Value × Value)} {cls : MessageClass} {v w : Value}

/-- A field is given as it is declared, or it is left out and may be. -/
def KeptIn (d : Declaration) (entries : List (Value × Value)) : Prop :=
  (d.required = true → (d.field.given? entries).isSome = true) ∧
    ∀ name w, d.field.given? entries = some (name, w) → d.type.Admits w

/-- `Admits` for a mapping, field by field. The condition on filters stands apart, as no single
field can state it. -/
theorem admits_of_keptIn (seen : v.content = .mapping entries)
    (each : cls.declared.Forall fun d => KeptIn d entries)
    (exactlyOne : cls = .filter →
      Field.propertyFilter.isSet entries ≠ Field.compositeFilter.isSet entries) :
    Admits (.message cls) v :=
  have each := List.forall_iff_forall_mem.mp each
  .given seen (fun d hd => (each d hd).1) (fun d hd => (each d hd).2) exactlyOne

/-- The same for a message, whose attributes are looked at as if they were given: a message is no
exception to `Admits`. -/
theorem admits_of_attributes {m : Message Value}
    (each : m.cls.declared.Forall fun d => KeptIn d (plainFields m.fields))
    (exactlyOne : m.cls = .filter → Field.propertyFilter.isSet (plainFields m.fields) ≠
      Field.compositeFilter.isSet (plainFields m.fields)) :
    Admits (.message m.cls) (.message m) :=
  .taken rfl (.inr rfl) (admits_of_keptIn rfl each exactlyOne)

/-- A field that is given keeps to its declaration by its value. -/
theorem keptIn_of_given {name : String} {required : Bool}
    (given : field.given? entries = some (name, w)) (admits : type.Admits w) :
    KeptIn ⟨field, type, required⟩ entries := by
  refine ⟨fun _ => by rw [given]; rfl, fun name w given' => ?_⟩
  obtain ⟨rfl, rfl⟩ := Prod.mk.inj (Option.some.inj (given.symm.trans given'))
  exact admits

/-- What `Spelling.Reads` reads keeps to the declaration, if all that is read for the field has its
type. -/
theorem keptIn_of_reads {default? : Option α} {reads : Value → α → Prop} {a : α}
    {required : Bool} (read : field.Reads default? reads entries a)
    (each : ∀ {v a}, reads v a → type.Admits v)
    (needed : required = true → default? = none) : KeptIn ⟨field, type, required⟩ entries := by
  unfold Spelling.Reads at read
  cases given : field.given? entries with
  | none =>
      rw [given] at read
      refine ⟨fun isRequired => ?_, fun _ _ given' => ?_⟩
      · rw [needed isRequired] at read
        cases read
      · rw [given] at given'
        cases given'
  | some e =>
      rw [given] at read
      exact keptIn_of_given given (each read)

theorem admits_of_optionally {reads : Value → α → Prop} {x : Option α}
    (read : v.Optionally reads x) (each : ∀ {v a}, reads v a → type.Admits v) :
    Admits (.optional type) v := by
  cases x with
  | none => exact .nothing read
  | some a => exact .something (each read.2)

theorem admits_of_lists {reads : Value → α → Prop} {l : List α} (read : v.Lists reads l)
    (each : ∀ {v a}, reads v a → type.Admits v) : Admits (.sequence type) v := by
  obtain ⟨items, seen, read⟩ := read
  refine .sequence seen ?_
  clear seen
  induction read with
  | nil => exact List.forall_mem_nil _
  | cons first _ ih => exact List.forall_mem_cons.mpr ⟨each first, ih⟩

end FieldType

open FieldType (Admits KeptIn keptIn_of_given keptIn_of_reads admits_of_keptIn
  admits_of_attributes admits_of_optionally admits_of_lists)

/-! ## Messages by their attributes -/

theorem KindExpression.admits (m : KindExpression) :
    Admits (.message .kindExpression) (.message (.kindExpression m)) :=
  admits_of_attributes (m := .kindExpression m) (keptIn_of_given rfl (.text rfl)) nofun

theorem PropertyReference.admits (m : PropertyReference) :
    Admits (.message .propertyReference) (.message (.propertyReference m)) :=
  admits_of_attributes (m := .propertyReference m) (keptIn_of_given rfl (.text rfl)) nofun

theorem Projection.admits (m : Projection) :
    Admits (.message .projection) (.message (.projection m)) :=
  admits_of_attributes (m := .projection m) (keptIn_of_given rfl m.property.admits) nofun

theorem Member.admits (m : Member) : Admits (.member m.enumeration) (.member m) := by
  refine .member ?_
  have spelling : (Value.member m).spelling? = some m.spelling := rfl
  rw [spelling, Option.bind_some, Enumeration.find?_spelling]
  rfl

theorem PropertyOrder.admits (m : PropertyOrder) :
    Admits (.message .propertyOrder) (.message (.propertyOrder m)) :=
  admits_of_attributes (m := .propertyOrder m)
    ⟨keptIn_of_given rfl m.property.admits,
      keptIn_of_given rfl (Member.direction m.direction).admits⟩ nofun

theorem PropertyFilter.admits (m : PropertyFilter Value) :
    Admits (.message .propertyFilter) (.message (.propertyFilter m)) := by
  have value : Admits .mapping (.ofTexts m.value) := by
    refine .mapping rfl fun e he => ?_
    obtain ⟨field, -, rfl⟩ := List.mem_map.mp he
    rfl
  exact admits_of_attributes (m := .propertyFilter m)
    ⟨keptIn_of_given rfl m.property.admits, keptIn_of_given rfl (Member.property m.op).admits,
      keptIn_of_given rfl value⟩ nofun

theorem CompositeFilter.admits_of_filters {c : CompositeFilter Value}
    (each : ∀ f ∈ c.filters, Admits (.message .filter) (.message (.filter f))) :
    Admits (.message .compositeFilter) (.message (.compositeFilter c)) :=
  admits_of_attributes (m := .compositeFilter c)
    ⟨keptIn_of_given rfl (Member.composite c.op).admits,
      keptIn_of_given rfl (.sequence rfl (List.forall_mem_map.mpr each))⟩ nofun

mutual

/-- A filter has exactly one of its parts, and so has every filter in it. The induction follows the
message, and the next but one below follows the data. -/
theorem Filter.admits : (f : Filter Value) → Admits (.message .filter) (.message (.filter f))
  | .property m =>
      admits_of_attributes (m := .filter (.property m))
        ⟨keptIn_of_given rfl (.something m.admits), keptIn_of_given rfl (.nothing rfl)⟩
        fun _ => nofun
  | .composite op filters mark =>
      have composite := CompositeFilter.admits_of_filters (c := ⟨op, filters, mark⟩)
        (admits_filters filters)
      admits_of_attributes (m := .filter (.composite op filters mark))
        ⟨keptIn_of_given rfl (.nothing rfl), keptIn_of_given rfl (.something composite)⟩
        fun _ => nofun
termination_by structural f => f

theorem admits_filters : (filters : List (Filter Value)) →
    ∀ f ∈ filters, Admits (.message .filter) (.message (.filter f))
  | [] => List.forall_mem_nil _
  | f :: rest => List.forall_mem_cons.mpr ⟨f.admits, admits_filters rest⟩
termination_by structural filters => filters

end

theorem QueryMessage.admits (m : QueryMessage Value) :
    Admits (.message .query) (.message (.query m)) := by
  have all : ∀ {α : Type} {type : FieldType} (shown : α → Value), (∀ a, type.Admits (shown a)) →
      ∀ l : List α, Admits (.sequence type) (.tuple (l.map shown)) := fun shown each l =>
    .sequence rfl (List.forall_mem_map.mpr fun a _ => each a)
  obtain ⟨kinds, projections, filter, orders, distinctOn, startCursor, limit, offset⟩ := m
  refine admits_of_attributes (m := .query
      ⟨kinds, projections, filter, orders, distinctOn, startCursor, limit, offset⟩)
    ⟨keptIn_of_given rfl (all _ KindExpression.admits _),
      keptIn_of_given rfl (all _ Projection.admits _), ?filter,
      keptIn_of_given rfl (all _ PropertyOrder.admits _),
      keptIn_of_given rfl (all _ PropertyReference.admits _), ?startCursor, ?limit,
      keptIn_of_given rfl (.integer rfl)⟩ nofun
  -- A part that may be nothing is shown as one of two values.
  case filter =>
    cases filter with
    | none => exact keptIn_of_given rfl (.nothing rfl)
    | some f => exact keptIn_of_given rfl (.something f.admits)
  case startCursor =>
    cases startCursor with
    | none => exact keptIn_of_given rfl (.nothing rfl)
    | some b => exact keptIn_of_given rfl (.something (.bytes rfl))
  case limit =>
    cases limit with
    | none => exact keptIn_of_given rfl (.nothing rfl)
    | some n => exact keptIn_of_given rfl (.something (.integer rfl))

theorem PartitionId.admits (m : PartitionId) :
    Admits (.message .partitionId) (.message (.partitionId m)) := by
  have text : ∀ s? : Option String, Admits (.optional .text) (.ofText? s?) := by
    rintro (_ | s)
    · exact .nothing rfl
    · exact .something (.text rfl)
  exact admits_of_attributes (m := .partitionId m)
    ⟨keptIn_of_given rfl (text _), keptIn_of_given rfl (text _)⟩ nofun

theorem RequestMessage.admits (m : RequestMessage Value) :
    Admits (.message .request) (.message (.request m)) :=
  admits_of_attributes (m := .request m)
    ⟨keptIn_of_given rfl m.partitionId.admits, keptIn_of_given rfl m.query.admits⟩ nofun

/-- A message of any class has the form that its class declares. -/
theorem Message.admits (m : Message Value) : Admits (.message m.cls) (.message m) := by
  cases m with
  | bare => exact admits_of_attributes (m := .bare) trivial nofun
  | kindExpression m => exact m.admits
  | propertyReference m => exact m.admits
  | projection m => exact m.admits
  | propertyOrder m => exact m.admits
  | propertyFilter m => exact m.admits
  | compositeFilter c => exact CompositeFilter.admits_of_filters fun f _ => f.admits
  | filter f => exact f.admits
  | query m => exact m.admits
  | partitionId m => exact m.admits
  | request m => exact m.admits

/-! ## Data that is read -/

theorem FieldType.admits_of_message {cls : MessageClass} {v : Value} {m : Message Value}
    (seen : v.content = .message m) (ofClass : m.cls = cls) : Admits (.message cls) v := by
  have admits := m.admits
  cases admits with
  | taken same _ attributes =>
      cases same
      exact .taken seen (.inr ofClass) attributes
  | given seen => cases seen

/-- `Record` and `Admits` have the same two cases, a message and a mapping, so a class is done once
its fields are. -/
theorem FieldType.admits_of_record {α : Type} {wrap : α → Message Value}
    {fields : List (Value × Value) → α → Prop} {v : Value} {a : α} {cls : MessageClass}
    (record : Record wrap fields v a) (ofClass : (wrap a).cls = cls)
    (each : ∀ {entries}, fields entries a → cls.declared.Forall fun d => KeptIn d entries)
    (other : cls ≠ .filter) : Admits (.message cls) v := by
  cases record with
  | taken seen => exact admits_of_message seen ofClass
  | given seen kept => exact admits_of_keptIn seen (each kept) fun same => absurd same other

open FieldType (admits_of_message admits_of_record)

theorem Value.Spells.admits {v : Value} {s : String} (h : v.Spells s) : Admits .text v :=
  .text (Option.isSome_of_eq_some h)

theorem Value.MapsTexts.admits {v : Value} {fields : List (String × Value)}
    (h : v.MapsTexts fields) : Admits .mapping v := by
  obtain ⟨entries, seen, keys, -⟩ := h
  exact .mapping seen keys

/-- A value that spells a member, in whatever form the vocabulary has its members. -/
theorem FieldType.admits_of_ofSpelling {α : Type} {v : Value} {a : α} {enumeration : Enumeration}
    {ofSpelling? : String → Option α} {wrap : α → Member}
    (find : ∀ s, enumeration.find? s = (ofSpelling? s).map wrap)
    (names : v.spelling?.bind ofSpelling? = some a) : Admits (.member enumeration) v := by
  obtain ⟨s, spells, names⟩ := Option.bind_eq_some_iff.mp names
  refine .member ?_
  rw [spells, Option.bind_some, find, names]
  rfl

open FieldType (admits_of_ofSpelling)

theorem KindExpression.admits_of_reads {v : Value} {m : KindExpression} (read : Reads v m) :
    Admits (.message .kindExpression) v :=
  admits_of_record read rfl
    (fun name => keptIn_of_reads name Value.Spells.admits fun _ => rfl) nofun

theorem PropertyReference.admits_of_reads {v : Value} {m : PropertyReference}
    (read : Reads v m) : Admits (.message .propertyReference) v :=
  admits_of_record read rfl
    (fun name => keptIn_of_reads name Value.Spells.admits fun _ => rfl) nofun

theorem Projection.admits_of_reads {v : Value} {m : Projection} (read : Reads v m) :
    Admits (.message .projection) v :=
  admits_of_record read rfl
    (fun property => keptIn_of_reads property PropertyReference.admits_of_reads fun _ => rfl) nofun

theorem PropertyOrder.admits_of_reads {v : Value} {m : PropertyOrder} (read : Reads v m) :
    Admits (.message .propertyOrder) v :=
  admits_of_record read rfl (fun ⟨property, direction⟩ =>
    ⟨keptIn_of_reads property PropertyReference.admits_of_reads fun _ => rfl,
      keptIn_of_reads direction (admits_of_ofSpelling fun _ => rfl) nofun⟩) nofun

theorem PropertyFilter.admits_of_reads {v : Value} {m : PropertyFilter Value}
    (read : Reads v m) : Admits (.message .propertyFilter) v :=
  admits_of_record read rfl (fun ⟨property, op, value, _⟩ =>
    ⟨keptIn_of_reads property PropertyReference.admits_of_reads fun _ => rfl,
      keptIn_of_reads op (admits_of_ofSpelling fun _ => rfl) fun _ => rfl,
      keptIn_of_reads value Value.MapsTexts.admits fun _ => rfl⟩) nofun

theorem PartitionId.admits_of_reads {v : Value} {m : PartitionId} (read : Reads v m) :
    Admits (.message .partitionId) v :=
  admits_of_record read rfl (fun ⟨projectId, namespaceId⟩ =>
    ⟨keptIn_of_reads projectId (admits_of_optionally · Value.Spells.admits) nofun,
      keptIn_of_reads namespaceId (admits_of_optionally · Value.Spells.admits) nofun⟩) nofun

section

variable {field : Spelling} {entries : List (Value × Value)} {type : FieldType} {name : String}
  {part : Value}

/-- A part that is absent keeps to whatever may be nothing, and is not given as something. -/
theorem Spelling.IsAbsent.keptIn (absent : field.IsAbsent entries) :
    KeptIn ⟨field, .optional type, false⟩ entries :=
  ⟨nofun, fun name w given => .nothing (absent name w given)⟩

theorem Spelling.IsAbsent.isSet (absent : field.IsAbsent entries) :
    field.isSet entries = false := by
  unfold Spelling.isSet
  cases given : field.given? entries with
  | none => rfl
  | some e => simp [absent e.1 e.2 given]

theorem Spelling.isSet_of_given (given : field.given? entries = some (name, part))
    (present : part.isNone = false) : field.isSet entries = true := by
  simp [Spelling.isSet, given, present]

end

mutual

/-- Data that is read as a filter has exactly one part, and so has all data for filters in it. By
mutual induction on `Filter.Reads`. -/
theorem Filter.admits_of_reads {v : Value} {f : Filter Value} :
    Filter.Reads v f → Admits (.message .filter) v
  | .taken seen => admits_of_message seen rfl
  | .property seen given present reads other =>
      admits_of_keptIn seen
        ⟨keptIn_of_given given (.something (PropertyFilter.admits_of_reads reads)), other.keptIn⟩
        fun _ => by
          rw [Spelling.isSet_of_given given present, other.isSet]
          exact nofun
  | .composite seen other given present reads =>
      admits_of_keptIn seen
        ⟨other.keptIn, keptIn_of_given given (.something (CompositeFilter.admits_of_reads reads))⟩
        fun _ => by
          rw [Spelling.isSet_of_given given present, other.isSet]
          exact nofun

theorem CompositeFilter.admits_of_reads {v : Value} {c : CompositeFilter Value} :
    CompositeFilter.Reads v c → Admits (.message .compositeFilter) v
  | .taken seen => admits_of_message seen rfl
  | .fields seen operator sequence length each => by
      rename_i entries op items filters
      have filters : ∀ w ∈ items, Admits (.message .filter) w := by
        intro w hw
        obtain ⟨k, hk, rfl⟩ := List.getElem_of_mem hw
        have hk' : k < filters.length := length ▸ hk
        have among : (items[k], filters[k]) ∈ items.zip filters :=
          List.mem_iff_getElem.mpr ⟨k, by simpa using ⟨hk, hk'⟩, List.getElem_zip⟩
        exact Filter.admits_of_reads (each _ among)
      refine admits_of_keptIn seen ⟨keptIn_of_reads operator (admits_of_ofSpelling fun _ => rfl)
        nofun, ⟨nofun, fun name w given => ?_⟩⟩ nofun
      rw [Spelling.Reads, given] at sequence
      exact .sequence sequence filters

end

theorem QueryMessage.admits_of_reads {v : Value} {m : QueryMessage Value} (read : Reads v m) :
    Admits (.message .query) v :=
  admits_of_record read rfl
    (fun ⟨kinds, projections, filter, orders, distinctOn, startCursor, limit, offset⟩ =>
      ⟨keptIn_of_reads kinds (admits_of_lists · KindExpression.admits_of_reads) nofun,
        keptIn_of_reads projections (admits_of_lists · Projection.admits_of_reads) nofun,
        keptIn_of_reads filter (admits_of_optionally · Filter.admits_of_reads) nofun,
        keptIn_of_reads orders (admits_of_lists · PropertyOrder.admits_of_reads) nofun,
        keptIn_of_reads distinctOn (admits_of_lists · PropertyReference.admits_of_reads) nofun,
        keptIn_of_reads startCursor
          (admits_of_optionally · fun read => .bytes (Option.isSome_of_eq_some read)) nofun,
        keptIn_of_reads limit
          (admits_of_optionally · fun read => .integer (Option.isSome_of_eq_some read)) nofun,
        keptIn_of_reads offset (fun read => .integer (Option.isSome_of_eq_some read)) nofun⟩) nofun

theorem RequestMessage.admits_of_reads {v : Value} {m : RequestMessage Value}
    (read : Reads v m) : Admits (.message .request) v :=
  admits_of_record read rfl (fun ⟨partition, query⟩ =>
    ⟨keptIn_of_reads partition PartitionId.admits_of_reads fun _ => rfl,
      keptIn_of_reads query QueryMessage.admits_of_reads fun _ => rfl⟩) nofun

/-- Data that is read as a message of a class has the form that the class declares. Together with
`Message.reads_of_check` this is about all that is ever accepted. -/
theorem Message.admits_of_reads {v : Value} {cls : MessageClass} {m : Message Value}
    (read : m.Reads v cls) : Admits (.message cls) v := by
  unfold Reads at read
  split at read
  · obtain seen | ⟨⟨entries, seen⟩, -⟩ := read
    · have admits := admits_of_message seen rfl
      cases admits with
      | taken seen' _ attributes => exact .taken seen' (.inl rfl) attributes
      | given seen' => rw [seen] at seen'; cases seen'
    · exact admits_of_keptIn seen trivial nofun
  · exact KindExpression.admits_of_reads read
  · exact PropertyReference.admits_of_reads read
  · exact Projection.admits_of_reads read
  · exact PropertyOrder.admits_of_reads read
  · exact PropertyFilter.admits_of_reads read
  · exact CompositeFilter.admits_of_reads read
  · exact Filter.admits_of_reads read
  · exact QueryMessage.admits_of_reads read
  · exact PartitionId.admits_of_reads read
  · exact RequestMessage.admits_of_reads read
  · exact read.elim

end EntityQuery
