import EntityQuery.Proofs.Grammar
import EntityQuery.Proofs.Lossless

/-!
# Names of fields do not matter

Data in which fields have their other names is validated alike, however the names are mixed.

* `MessageClass.parts` says of each class what its fields hold, and so where in loose data names
  of fields are.
* `Respelt` relates data to the same data with other names for some of its fields, mapping by
  mapping. Where both names of a field are there, only what the wire name has counts.
* `RespeltEntries.given?` is what a check depends on: the same fields are given, and what they are
  given is respelt. From there on each check is followed through its parts, and filters by their
  levels.
* `Message.validate_respelt` puts the classes together. Problems are alike up to the names of fields
  in their places (`Place.Respelt`).
-/

namespace EntityQuery

/-! ## Where names of fields are -/

/-- What a field holds: a message of a class, a sequence of such, or data without names of fields.
`MessageClass.parts` gives one for every field, so a `Place` can be followed class by class. -/
inductive Part where
  /-- Something in which there are no names of fields. -/
  | data
  /-- A message of a class. -/
  | message (cls : MessageClass)
  /-- A sequence of messages of a class. -/
  | messages (cls : MessageClass)
  deriving DecidableEq

/-- The fields of a class, and what they hold. -/
def MessageClass.parts : MessageClass → List (Spelling × Part)
  | bare => []
  | kindExpression => [(Field.name, .data)]
  | propertyReference => [(Field.name, .data)]
  | projection => [(Field.property, .message propertyReference)]
  | propertyOrder => [(Field.property, .message propertyReference), (Field.direction, .data)]
  | propertyFilter =>
      [(Field.property, .message propertyReference), (Field.op, .data), (Field.value, .data)]
  | compositeFilter => [(Field.op, .data), (Field.filters, .messages filter)]
  | filter =>
      [(Field.propertyFilter, .message propertyFilter),
        (Field.compositeFilter, .message compositeFilter)]
  | query =>
      [(Field.kinds, .messages kindExpression), (Field.projections, .messages projection),
        (Field.filter, .message filter), (Field.orders, .messages propertyOrder),
        (Field.distinctOn, .messages propertyReference), (Field.startCursor, .data),
        (Field.limit, .data), (Field.offset, .data)]
  | partitionId => [(Field.projectId, .data), (Field.namespaceId, .data)]
  | request => [(Field.partitionId, .message partitionId), (Field.query, .message query)]

/-- The names of a field. -/
def Spelling.names (field : Spelling) : List String := [field.wire, field.plain]

/-- No name belongs to two fields of a class, which `decide` settles over `MessageClass.all`. -/
theorem MessageClass.parts_eq {cls : MessageClass} {p q : Spelling × Part} (hp : p ∈ cls.parts)
    (hq : q ∈ cls.parts) {name : String} (ofP : name ∈ p.1.names) (ofQ : name ∈ q.1.names) :
    p = q := by
  have each : ∀ cls ∈ all, ∀ p ∈ cls.parts, ∀ q ∈ cls.parts, ∀ name ∈ p.1.names,
      name ∈ q.1.names → p = q := by
    decide
  exact each cls (by cases cls <;> decide) p hp q hq name ofP ofQ

/-- A key is a name of a field. -/
def Spelling.Names (field : Spelling) (k : Value) : Prop :=
  ∃ name ∈ field.names, k.asText? = some name

instance (field : Spelling) (k : Value) : Decidable (field.Names k) :=
  inferInstanceAs (Decidable (∃ name ∈ field.names, k.asText? = some name))

/-- The texts among the keys of entries. -/
def textKeys (entries : List (Value × Value)) : List String :=
  entries.filterMap fun e => e.1.asText?

/-- Of the two names of a field, at most one is among the keys. If both are, `given?` takes the wire
name, the plain one does not count, and anything may be under it. -/
def Spelling.GivenOnce (field : Spelling) (keys : List String) : Prop :=
  field.wire ∈ keys → field.plain ∈ keys → field.wire = field.plain

instance (field : Spelling) (keys : List String) : Decidable (field.GivenOnce keys) :=
  inferInstanceAs (Decidable (_ → _ → _))

mutual

/-- Data in place of which there is the same data with other names for some of its fields, at every
depth and independently of each other. -/
inductive Respelt : Part → Value → Value → Prop where
  | same (part : Part) (v : Value) : Respelt part v v
  /-- What is seen at a place. -/
  | object {part : Part} {number : Nat} {look look' : Unit → Value}
      (seen : Respelt part (look ()) (look' ())) :
      Respelt part (.object number look) (.object number look')
  /-- A mapping for a message, in which no key comes twice. -/
  | mapping {cls : MessageClass} {entries entries' : List (Value × Value)}
      (nodup : (textKeys entries).Nodup)
      (each : RespeltEntries cls (textKeys entries) entries entries') :
      Respelt (.message cls) (.mapping entries) (.mapping entries')
  | list {cls : MessageClass} {items items' : List Value} (each : RespeltItems cls items items') :
      Respelt (.messages cls) (.list items) (.list items')
  | tuple {cls : MessageClass} {items items' : List Value} (each : RespeltItems cls items items') :
      Respelt (.messages cls) (.tuple items) (.tuple items')

/-- Entries of a mapping for a message that has the given texts as keys. All `keys` are carried
along, since an entry under a plain name is dropped or kept by what else is there. -/
inductive RespeltEntries :
    MessageClass → List String → List (Value × Value) → List (Value × Value) → Prop where
  | nil {cls : MessageClass} {keys : List String} : RespeltEntries cls keys [] []
  /-- A key that is no name of a field stays, and so does its value. -/
  | extra {cls : MessageClass} {keys : List String} {k v : Value}
      {rest rest' : List (Value × Value)} (unknown : ∀ p ∈ cls.parts, ¬ p.1.Names k)
      (others : RespeltEntries cls keys rest rest') :
      RespeltEntries cls keys ((k, v) :: rest) ((k, v) :: rest')
  /-- A field that is given under one name may have either. -/
  | field {cls : MessageClass} {keys : List String} {field : Spelling} {part : Part}
      {k k' v v' : Value} {rest rest' : List (Value × Value)}
      (isField : (field, part) ∈ cls.parts) (once : field.GivenOnce keys) (named : field.Names k)
      (named' : field.Names k') (value : Respelt part v v')
      (others : RespeltEntries cls keys rest rest') :
      RespeltEntries cls keys ((k, v) :: rest) ((k', v') :: rest')
  /-- A wire name may stay, also of a field that is given under both names. -/
  | wire {cls : MessageClass} {keys : List String} {field : Spelling} {part : Part}
      {k v v' : Value} {rest rest' : List (Value × Value)}
      (isField : (field, part) ∈ cls.parts) (named : k.asText? = some field.wire)
      (value : Respelt part v v') (others : RespeltEntries cls keys rest rest') :
      RespeltEntries cls keys ((k, v) :: rest) ((k, v') :: rest')
  /-- Beside the wire name of a field, its plain name may have any value. -/
  | replaced {cls : MessageClass} {keys : List String} {field : Spelling} {part : Part}
      {k v v' : Value} {rest rest' : List (Value × Value)}
      (isField : (field, part) ∈ cls.parts) (both : field.wire ∈ keys)
      (differ : field.wire ≠ field.plain) (named : k.asText? = some field.plain)
      (others : RespeltEntries cls keys rest rest') :
      RespeltEntries cls keys ((k, v) :: rest) ((k, v') :: rest')
  /-- Or it may be left out. -/
  | dropped {cls : MessageClass} {keys : List String} {field : Spelling} {part : Part}
      {k v : Value} {rest rest' : List (Value × Value)}
      (isField : (field, part) ∈ cls.parts) (both : field.wire ∈ keys)
      (differ : field.wire ≠ field.plain) (named : k.asText? = some field.plain)
      (others : RespeltEntries cls keys rest rest') :
      RespeltEntries cls keys ((k, v) :: rest) rest'

/-- Items of a sequence of messages, one by one. -/
inductive RespeltItems : MessageClass → List Value → List Value → Prop where
  | nil {cls : MessageClass} : RespeltItems cls [] []
  | cons {cls : MessageClass} {v v' : Value} {rest rest' : List Value}
      (first : Respelt (.message cls) v v') (others : RespeltItems cls rest rest') :
      RespeltItems cls (v :: rest) (v' :: rest')

end

/-! ## What is given for a field -/

/-- A field that `given?` finds in respelt data as well, or in neither. The names may differ, the
values are respelt. -/
inductive GivenAlike (field : Spelling) (part : Part) :
    Option (String × Value) → Option (String × Value) → Prop where
  | none : GivenAlike field part none none
  | some {name name' : String} {v v' : Value} (isName : name ∈ field.names)
      (isName' : name' ∈ field.names) (value : Respelt part v v') :
      GivenAlike field part (some (name, v)) (some (name', v'))

theorem GivenAlike.eq_none {field : Spelling} {part : Part} {given? : Option (String × Value)}
    (alike : GivenAlike field part Option.none given?) : given? = Option.none := by
  cases alike
  rfl

namespace Spelling

variable {field : Spelling} {k v : Value} {rest : List (Value × Value)} {name : String}

theorem given?_eq_none_iff {entries : List (Value × Value)} :
    field.given? entries = none ↔
      Entries.get? field.wire entries = none ∧ Entries.get? field.plain entries = none := by
  simp [given?]

/-- An entry with another key says nothing about a field. -/
theorem given?_cons_of_not_names (other : ¬ field.Names k) :
    field.given? ((k, v) :: rest) = field.given? rest := by
  have notWire : k.asText? ≠ some field.wire := fun same =>
    other ⟨_, List.mem_cons_self, same⟩
  have notPlain : k.asText? ≠ some field.plain := fun same =>
    other ⟨_, List.mem_cons_of_mem _ List.mem_cons_self, same⟩
  simp [given?, Entries.get?, notWire, notPlain]

/-- The only entry for a field is what is given for it. The entries behind it are asked for in
`given?`, since a wire name there would win. -/
theorem given?_cons_of_names (isName : name ∈ field.names) (named : k.asText? = some name)
    (alone : field.given? rest = none) : field.given? ((k, v) :: rest) = some (name, v) := by
  obtain ⟨noWire, noPlain⟩ := given?_eq_none_iff.mp alone
  simp only [names, List.mem_cons, List.not_mem_nil, or_false] at isName
  by_cases isWire : name = field.wire
  · subst isWire
    simp [given?, Entries.get?, named]
  · obtain rfl := isName.resolve_left isWire
    simp [given?, Entries.get?, named, isWire, noWire]

/-- What is given under the wire name is what is given. -/
theorem given?_of_wire {entries : List (Value × Value)}
    (found : Entries.get? field.wire entries = some v) :
    field.given? entries = some (field.wire, v) := by
  simp [given?, found]

end Spelling

theorem Entries.get?_eq_none_iff {entries : List (Value × Value)} {name : String} :
    get? name entries = none ↔ name ∉ textKeys entries := by
  induction entries with
  | nil => simp [get?, textKeys]
  | cons e rest ih =>
      obtain ⟨k, v⟩ := e
      rw [get?, textKeys, List.filterMap_cons]
      cases text : k.asText? with
      | none => simpa [textKeys] using ih
      | some s =>
          by_cases same : s = name
          · simp [same]
          · simpa [textKeys, same, Ne.symm same] using ih

theorem textKeys_sublist (e : Value × Value) (rest : List (Value × Value)) :
    (textKeys rest).Sublist (textKeys (e :: rest)) :=
  (List.sublist_cons_self e rest).filterMap _

/-- After an entry for a field that is given at most once there is none. -/
theorem Spelling.given?_rest_eq_none {field : Spelling} {keys : List String}
    (once : field.GivenOnce keys) {k v : Value} {rest : List (Value × Value)}
    (nodup : (textKeys ((k, v) :: rest)).Nodup) (among : textKeys ((k, v) :: rest) ⊆ keys)
    (named : field.Names k) : field.given? rest = none := by
  obtain ⟨name, isName, text⟩ := named
  have cons : textKeys ((k, v) :: rest) = name :: textKeys rest := by simp [textKeys, text]
  rw [cons] at nodup among
  obtain ⟨fresh, -⟩ := List.nodup_cons.mp nodup
  have here : name ∈ keys := among List.mem_cons_self
  have there : ∀ {other}, other ∈ textKeys rest → other ∈ keys := fun later =>
    among (List.mem_cons_of_mem _ later)
  rw [given?_eq_none_iff, Entries.get?_eq_none_iff, Entries.get?_eq_none_iff]
  simp only [names, List.mem_cons, List.not_mem_nil, or_false] at isName
  obtain rfl | rfl := isName
  · exact ⟨fresh, fun later => fresh (once here (there later) ▸ later)⟩
  · exact ⟨fun later => fresh (once (there later) here ▸ later), fresh⟩

section

variable {cls : MessageClass} {field : Spelling} {part : Part} (isField : (field, part) ∈ cls.parts)

include isField

/-- A key names a field of the class only if it names this one. So respelling one field never turns
it into another. -/
theorem MessageClass.parts_of_names {field' : Spelling} {part' : Part} {k : Value}
    (isField' : (field', part') ∈ cls.parts) (named : field.Names k) (named' : field'.Names k) :
    field' = field ∧ part' = part := by
  obtain ⟨name, isName, text⟩ := named
  obtain ⟨name', isName', text'⟩ := named'
  obtain rfl : name = name' := Option.some.inj (text.symm.trans text')
  exact Prod.ext_iff.mp (parts_eq isField' isField isName' isName)

/-- What a field that is given at most once is given is respelt. The induction is on the entries
that are left, in which the field is given at most once too; `among` carries `keys` along while
`entries` shrinks. -/
theorem RespeltEntries.given?_of_once {keys : List String} (once : field.GivenOnce keys)
    {entries entries' : List (Value × Value)} (each : RespeltEntries cls keys entries entries')
    (nodup : (textKeys entries).Nodup) (among : textKeys entries ⊆ keys) :
    GivenAlike field part (field.given? entries) (field.given? entries') := by
  induction entries generalizing entries' with
  | nil =>
      cases each
      exact .none
  | cons e rest ih =>
      obtain ⟨k, v⟩ := e
      have sublist := textKeys_sublist (k, v) rest
      have later : ∀ {rest'}, RespeltEntries cls keys rest rest' →
          GivenAlike field part (field.given? rest) (field.given? rest') := fun others =>
        ih others (nodup.sublist sublist) (List.Subset.trans sublist.subset among)
      by_cases named : field.Names k
      · have alone := Spelling.given?_rest_eq_none once nodup among named
        have alone' : ∀ {rest'}, RespeltEntries cls keys rest rest' →
            field.given? rest' = none := by
          intro rest' others
          exact (alone ▸ later others).eq_none
        -- This entry is for the field, so no other field has its wire name beside this name.
        have plainNeverBeside : ∀ {field' part'}, (field', part') ∈ cls.parts →
            field'.wire ∈ keys → field'.wire ≠ field'.plain → k.asText? ≠ some field'.plain := by
          intro field' part' isField' both differ text
          have isPlain : field'.Names k := ⟨_, List.mem_cons_of_mem _ List.mem_cons_self, text⟩
          obtain ⟨rfl, -⟩ := MessageClass.parts_of_names isField isField' named isPlain
          have isKey : field'.plain ∈ keys := among (by simp [textKeys, text])
          exact differ (once both isKey)
        cases each with
        | extra unknown others => exact absurd named (unknown _ isField)
        | field isField' once' isNamed isNamed' value others =>
            obtain ⟨rfl, rfl⟩ := MessageClass.parts_of_names isField isField' named isNamed
            obtain ⟨name, isName, text⟩ := named
            obtain ⟨name', isName', text'⟩ := isNamed'
            rw [Spelling.given?_cons_of_names isName text alone,
              Spelling.given?_cons_of_names isName' text' (alone' others)]
            exact .some isName isName' value
        | wire isField' isNamed value others =>
            obtain ⟨rfl, rfl⟩ := MessageClass.parts_of_names isField isField' named
              ⟨_, List.mem_cons_self, isNamed⟩
            rw [Spelling.given?_cons_of_names List.mem_cons_self isNamed alone,
              Spelling.given?_cons_of_names List.mem_cons_self isNamed (alone' others)]
            exact .some List.mem_cons_self List.mem_cons_self value
        | replaced isField' both differ isNamed others =>
            exact absurd isNamed (plainNeverBeside isField' both differ)
        | dropped isField' both differ isNamed others =>
            exact absurd isNamed (plainNeverBeside isField' both differ)
      -- An entry for another field does not count, under whatever name it stands now.
      · rw [Spelling.given?_cons_of_not_names named]
        cases each with
        | extra unknown others =>
            rw [Spelling.given?_cons_of_not_names named]
            exact later others
        | field isField' once' isNamed isNamed' value others =>
            have notNamed' : ¬ field.Names _ := fun named' => by
              obtain ⟨rfl, -⟩ := MessageClass.parts_of_names isField isField' named' isNamed'
              exact named isNamed
            rw [Spelling.given?_cons_of_not_names notNamed']
            exact later others
        | wire isField' isNamed value others =>
            rw [Spelling.given?_cons_of_not_names named]
            exact later others
        | replaced isField' both differ isNamed others =>
            rw [Spelling.given?_cons_of_not_names named]
            exact later others
        | dropped isField' both differ isNamed others => exact later others

/-- What is given under the wire name is respelt, where the field is given under both names. The
other case beside `given?_of_once`. -/
theorem RespeltEntries.get?_wire {keys : List String} (both : ¬ field.GivenOnce keys)
    {entries entries' : List (Value × Value)} (each : RespeltEntries cls keys entries entries') :
    Option.Rel (Respelt part) (Entries.get? field.wire entries)
      (Entries.get? field.wire entries') := by
  induction entries generalizing entries' with
  | nil =>
      cases each
      exact .none
  | cons e rest ih =>
      obtain ⟨k, v⟩ := e
      have wireName : ∀ {k : Value}, k.asText? = some field.wire → field.Names k := fun text =>
        ⟨_, List.mem_cons_self, text⟩
      -- The wire name of the field can only be reached by an entry that keeps it.
      have onceOther : ∀ {field' part'}, (field', part') ∈ cls.parts → field'.GivenOnce keys →
          ∀ {k : Value}, field'.Names k → k.asText? ≠ some field.wire := by
        intro field' part' isField' once k isNamed isWire
        obtain ⟨rfl, -⟩ := MessageClass.parts_of_names isField isField' (wireName isWire) isNamed
        exact both once
      have plainOther : ∀ {field' part'}, (field', part') ∈ cls.parts →
          field'.wire ≠ field'.plain → k.asText? = some field'.plain →
          k.asText? ≠ some field.wire := by
        intro field' part' isField' differ isPlain isWire
        obtain ⟨rfl, -⟩ := MessageClass.parts_of_names isField isField' (wireName isWire)
          ⟨_, List.mem_cons_of_mem _ List.mem_cons_self, isPlain⟩
        exact differ (Option.some.inj (isWire.symm.trans isPlain))
      cases each with
      | extra unknown others =>
          have notWire : k.asText? ≠ some field.wire := fun isWire =>
            unknown _ isField (wireName isWire)
          simpa only [Entries.get?, notWire, if_false] using ih others
      | field isField' once isNamed isNamed' value others =>
          have notWire := onceOther isField' once isNamed
          have notWire' := onceOther isField' once isNamed'
          simpa only [Entries.get?, notWire, notWire', if_false] using ih others
      | wire isField' isNamed value others =>
          by_cases isWire : k.asText? = some field.wire
          · obtain ⟨rfl, rfl⟩ := MessageClass.parts_of_names isField isField' (wireName isWire)
              ⟨_, List.mem_cons_self, isNamed⟩
            simpa only [Entries.get?, isWire, if_true] using Option.Rel.some value
          · simpa only [Entries.get?, isWire, if_false] using ih others
      | replaced isField' _ differ isNamed others =>
          have notWire := plainOther isField' differ isNamed
          simpa only [Entries.get?, notWire, if_false] using ih others
      | dropped isField' _ differ isNamed others =>
          have notWire := plainOther isField' differ isNamed
          simpa only [Entries.get?, notWire, if_false] using ih others

/-- `given?` finds respelt values in respelt entries: the one lemma that the checks below need to
know about names. -/
theorem RespeltEntries.given? {entries entries' : List (Value × Value)}
    (nodup : (textKeys entries).Nodup)
    (each : RespeltEntries cls (textKeys entries) entries entries') :
    GivenAlike field part (field.given? entries) (field.given? entries') := by
  by_cases once : field.GivenOnce (textKeys entries)
  · exact each.given?_of_once isField once nodup (List.Subset.refl _)
  · have wires := each.get?_wire isField once
    have present : field.wire ∈ textKeys entries := by
      by_contra absent
      exact once fun isWire => absurd isWire absent
    cases found : Entries.get? field.wire entries with
    | none => exact absurd present (Entries.get?_eq_none_iff.mp found)
    | some v =>
        rw [found] at wires
        generalize found' : Entries.get? field.wire entries' = v'? at wires
        cases wires with
        | some value =>
            rw [Spelling.given?_of_wire found, Spelling.given?_of_wire found']
            exact .some List.mem_cons_self List.mem_cons_self value

end

/-! ## What is seen of respelt data -/

theorem Respelt.content {part : Part} {v v' : Value} (h : Respelt part v v') :
    Respelt part v.content v'.content := by
  cases v with
  | object number look =>
      cases h with
      | same => exact .same _ _
      | object seen =>
          have inner := Respelt.content seen
          exact inner
  | _ => cases h <;> constructor <;> assumption

theorem Respelt.eq_of_data {v v' : Value} (h : Respelt .data v v') : v = v' := by
  cases h with
  | same => rfl
  | @object _ number look look' seen =>
      have same : look = look' := funext fun _ => Respelt.eq_of_data seen
      rw [same]

theorem RespeltItems.forall₂ {cls : MessageClass} {items items' : List Value}
    (each : RespeltItems cls items items') :
    List.Forall₂ (Respelt (.message cls)) items items' := by
  induction items generalizing items' with
  | nil =>
      cases each
      exact .nil
  | cons v rest ih =>
      cases each with
      | cons first others => exact .cons first (ih others)

/-- All fields of a class are given alike. Checks of mappings read them by `Spelling.given?` only,
so this is what they depend on. -/
def FieldsAlike (cls : MessageClass) (entries entries' : List (Value × Value)) : Prop :=
  ∀ ⦃field : Spelling⦄ ⦃part : Part⦄, (field, part) ∈ cls.parts →
    GivenAlike field part (field.given? entries) (field.given? entries')

theorem Spelling.mem_names_of_given? {field : Spelling} {entries : List (Value × Value)}
    {name : String} {v : Value} (given : field.given? entries = some (name, v)) :
    name ∈ field.names := by
  unfold given? at given
  rcases Option.or_eq_some_iff.mp given with wire | ⟨-, plain⟩
  · obtain ⟨w, -, same⟩ := Option.map_eq_some_iff.mp wire
    cases same
    exact List.mem_cons_self
  · obtain ⟨w, -, same⟩ := Option.map_eq_some_iff.mp plain
    cases same
    exact List.mem_cons_of_mem _ List.mem_cons_self

theorem FieldsAlike.refl (cls : MessageClass) (entries : List (Value × Value)) :
    FieldsAlike cls entries entries := by
  intro field part isField
  cases given : field.given? entries with
  | none => exact .none
  | some e =>
      have isName := Spelling.mem_names_of_given? given
      exact .some isName isName (.same part e.2)

namespace Respelt

variable {part : Part} {cls cls' : MessageClass} {v v' w w' : Value}

theorem place? (h : Respelt part v v') : v.place? = v'.place? := by
  cases h <;> rfl

theorem isAmong (h : Respelt part v v') (numbers : List Nat) :
    v.isAmong numbers = v'.isAmong numbers := by
  rw [Value.isAmong, Value.isAmong, h.place?]

theorem isNone (h : Respelt part v v') : v.isNone = v'.isNone := by
  rw [Bool.eq_iff_iff, Value.isNone_iff, Value.isNone_iff]
  have inner := h.content
  generalize v.content = c, v'.content = c' at inner
  cases inner with
  | same => exact Iff.rfl
  | _ => exact ⟨Value.noConfusion, Value.noConfusion⟩

/-- Of data for a message, mappings with the same fields are seen, or the same. -/
theorem seen (h : Respelt (.message cls) v v') :
    (∃ entries entries', v.content = .mapping entries ∧ v'.content = .mapping entries' ∧
      FieldsAlike cls entries entries') ∨
    (v.content = v'.content ∧ ∀ entries, v.content ≠ .mapping entries) := by
  have noObject := Value.place?_content v
  have inner := h.content
  generalize v.content = c, v'.content = c' at inner noObject
  cases inner with
  | same =>
      cases c with
      | mapping entries => exact .inl ⟨_, _, rfl, rfl, FieldsAlike.refl cls entries⟩
      | _ => exact .inr ⟨rfl, fun _ => Value.noConfusion⟩
  | object => cases noObject
  | mapping nodup each =>
      exact .inl ⟨_, _, rfl, rfl, fun _ _ isField => each.given? isField nodup⟩

theorem sequence? (h : Respelt (.messages cls) v v') :
    Option.Rel (List.Forall₂ (Respelt (.message cls))) v.sequence? v'.sequence? := by
  have noObject := Value.place?_content v
  have inner := h.content
  unfold Value.sequence?
  generalize v.content = c, v'.content = c' at inner noObject
  cases inner with
  | same =>
      have refl : ∀ items, List.Forall₂ (Respelt (.message cls)) items items := fun items =>
        List.forall₂_same.mpr fun v _ => .same _ v
      split
      · exact .some (refl _)
      · exact .some (refl _)
      · exact .some (refl _)
      · exact .none
  | object => cases noObject
  | list each => exact .some each.forall₂
  | tuple each => exact .some each.forall₂

/-- Whether two data are the same thing does not depend on spellings. -/
theorem identical (h : Respelt (.message cls) v v') (h' : Respelt (.message cls') w w') :
    v.identical w = v'.identical w' := by
  have isAt : ∀ number, w.isAt number = w'.isAt number := by
    intro number
    cases h' <;> rfl
  have mapping : ∀ {entries : List (Value × Value)} {c : Value},
      c.isSame (.mapping entries) = false := by
    intro entries c
    cases c with
    | tuple items => cases items <;> rfl
    | _ => rfl
  have isSame : v.content.isSame w.content = v'.content.isSame w'.content := by
    obtain ⟨entries, entries', at_v, at_v', -⟩ | ⟨same, -⟩ := h.seen
    · rw [at_v, at_v']
      rfl
    · obtain ⟨entries, entries', at_w, at_w', -⟩ | ⟨same', -⟩ := h'.seen
      · rw [at_w, at_w', mapping, mapping]
      · rw [same, same']
  unfold Value.identical
  rw [isSame]
  cases h with
  | same => simp only [isAt]
  | object => simp only [isAt]
  | mapping => rfl

end Respelt

/-! ## Results of checks -/

/-- A place inside of data, up to the names of the fields on the way. -/
inductive Place.Respelt : Part → Place → Place → Prop where
  | same (part : Part) (p : Place) : Place.Respelt part p p
  | field {cls : MessageClass} {field : Spelling} {part : Part} {name name' : String}
      {p p' : Place} (isField : (field, part) ∈ cls.parts) (isName : name ∈ field.names)
      (isName' : name' ∈ field.names) (rest : Place.Respelt part p p') :
      Place.Respelt (.message cls) (.key name :: p) (.key name' :: p')
  | item {cls : MessageClass} {i : Int} {p p' : Place}
      (rest : Place.Respelt (.message cls) p p') :
      Place.Respelt (.messages cls) (.index i :: p) (.index i :: p')

/-- The same complaint, at a place that is the same up to the names of fields. -/
structure Problem.Respelt (part : Part) (p p' : Problem) : Prop where
  place : Place.Respelt part p.place p'.place
  complaint : p.complaint = p'.complaint

/-- The same message or failure, or the same problems up to the names of fields. -/
inductive Checked.Respelt {α : Type} (part : Part) : Checked α → Checked α → Prop where
  | ok (a : α) : Checked.Respelt part (.ok a) (.ok a)
  | problems {found found' : List Problem}
      (each : List.Forall₂ (Problem.Respelt part) found found') :
      Checked.Respelt part (.error (.problems found)) (.error (.problems found'))
  | failed (e : Failure) : Checked.Respelt part (.error (.failed e)) (.error (.failed e))

namespace Checked.Respelt

variable {α β : Type} {part : Part} {cls : MessageClass}

theorem refl (c : Checked α) : Checked.Respelt part c c := by
  rcases c with (found | e) | a
  · exact .problems (List.forall₂_same.mpr fun p _ => ⟨.same part p.place, rfl⟩)
  · exact .failed e
  · exact .ok a

theorem and {f f' : Checked (α → β)} {a a' : Checked α} (hf : Checked.Respelt part f f')
    (ha : Checked.Respelt part a a') : Checked.Respelt part (f.and a) (f'.and a') := by
  cases hf with
  | ok f =>
      cases ha with
      | ok a => exact .ok (f a)
      | problems each => exact .problems each
      | failed e => exact .failed e
  | problems each =>
      cases ha with
      | ok a => exact .problems each
      | problems each' => exact .problems (List.rel_append each each')
      | failed e => exact .failed e
  | failed e => exact .failed e

theorem map (f : α → β) {c c' : Checked α} (h : Checked.Respelt part c c') :
    Checked.Respelt part (c.map f) (c'.map f) := by
  cases h with
  | ok a => exact .ok (f a)
  | problems each => exact .problems each
  | failed e => exact .failed e

theorem bind (f : α → Checked β) {c c' : Checked α} (h : Checked.Respelt part c c') :
    Checked.Respelt part (c >>= f) (c' >>= f) := by
  cases h with
  | ok a => exact refl (f a)
  | problems each => exact .problems each
  | failed e => exact .failed e

/-- Seen from one step further out, results are alike if the steps are. -/
theorem under {part' : Part} {step step' : Place.Step} {c c' : Checked α}
    (outwards : ∀ {p p'}, Place.Respelt part p p' →
      Place.Respelt part' (step :: p) (step' :: p'))
    (h : Checked.Respelt part c c') :
    Checked.Respelt part' (c.under step) (c'.under step') := by
  cases h with
  | ok a => exact .ok a
  | problems each =>
      refine .problems (List.forall₂_map_left_iff.mpr (List.forall₂_map_right_iff.mpr ?_))
      exact each.imp fun p p' same => ⟨outwards same.place, same.complaint⟩
  | failed e => exact .failed e

end Checked.Respelt

/-- A check whose results for respelt data are alike. The checks of all classes are put together
field by field from such checks, as `Checked.and` is from results. -/
def ChecksAlike {α : Type} (part : Part) (check : Value → Checked α) : Prop :=
  ∀ ⦃v v' : Value⦄, Respelt part v v' → Checked.Respelt part (check v) (check v')

section

variable {α : Type} {part : Part} {cls : MessageClass} {check : Value → Checked α}

/-- Any check does so on data without names of fields. -/
theorem checksAlike_data (check : Value → Checked α) : ChecksAlike .data check := by
  intro v v' h
  rw [h.eq_of_data]
  exact .refl _

theorem ChecksAlike.optional (h : ChecksAlike part check) :
    ChecksAlike part (checkOptional check) := by
  intro v v' respelt
  unfold checkOptional
  rw [respelt.isNone]
  split
  · exact .ok _
  · exact (h respelt).map some

theorem ChecksAlike.items (h : ChecksAlike (.message cls) check) {items items' : List Value}
    (each : List.Forall₂ (Respelt (.message cls)) items items') (index : Nat) :
    Checked.Respelt (.messages cls) (Checked.items check index items)
      (Checked.items check index items') := by
  induction each generalizing index with
  | nil => exact .ok []
  | cons first _ ih =>
      exact ((Checked.Respelt.ok _).and ((h first).under .item)).and (ih (index + 1))

theorem ChecksAlike.sequence (h : ChecksAlike (.message cls) check) :
    ChecksAlike (.messages cls) (checkSequence check) := by
  intro v v' respelt
  have items := respelt.sequence?
  unfold checkSequence
  generalize v.sequence? = items?, v'.sequence? = items'? at items
  cases items with
  | none => exact .refl _
  | some each => exact h.items each 0

/-- A check for a class depends on what is seen of data, and on mappings by their fields
(`FieldsAlike`). Every class with fields is an instance of this. -/
theorem checksAlike_message (fields : List (Value × Value) → Checked α)
    (looks : ∀ {v w : Value}, v.content = w.content → check v = check w)
    (reads : ∀ {v entries}, v.content = .mapping entries → check v = fields entries)
    (each : ∀ {entries entries'}, FieldsAlike cls entries entries' →
      Checked.Respelt (.message cls) (fields entries) (fields entries')) :
    ChecksAlike (.message cls) check := by
  intro v v' respelt
  obtain ⟨entries, entries', at_v, at_v', alike⟩ | ⟨same, -⟩ := respelt.seen
  · rw [reads at_v, reads at_v']
    exact each alike
  · rw [looks same]
    exact .refl _

variable {field : Spelling} {entries entries' : List (Value × Value)}

theorem ChecksAlike.find? (h : ChecksAlike part check) (alike : FieldsAlike cls entries entries')
    (isField : (field, part) ∈ cls.parts) :
    Option.Rel (Checked.Respelt (.message cls)) (field.find? check entries)
      (field.find? check entries') := by
  have given := alike isField
  unfold Spelling.find?
  generalize field.given? entries = given?, field.given? entries' = given'? at given
  cases given with
  | none => exact .none
  | some isName isName' value => exact .some ((h value).under (.field isField isName isName'))

theorem ChecksAlike.required (h : ChecksAlike part check)
    (alike : FieldsAlike cls entries entries') (isField : (field, part) ∈ cls.parts) :
    Checked.Respelt (.message cls) (field.required check entries)
      (field.required check entries') := by
  have found := h.find? alike isField
  unfold Spelling.required
  generalize field.find? check entries = found?, field.find? check entries' = found'? at found
  cases found with
  | none => exact .refl _
  | some result => exact result

theorem ChecksAlike.defaulted (h : ChecksAlike part check)
    (alike : FieldsAlike cls entries entries') (isField : (field, part) ∈ cls.parts) (absent : α) :
    Checked.Respelt (.message cls) (field.defaulted absent check entries)
      (field.defaulted absent check entries') := by
  have found := h.find? alike isField
  unfold Spelling.defaulted
  generalize field.find? check entries = found?, field.find? check entries' = found'? at found
  cases found with
  | none => exact .ok absent
  | some result => exact result

end

/-! ## The flat classes -/

theorem KindExpression.checksAlike : ChecksAlike (.message .kindExpression) check := by
  refine checksAlike_message ofEntries (fun same => by simp only [check, same])
    (fun at_v => by simp only [check, at_v]) fun alike => ?_
  exact (Checked.Respelt.ok _).and ((checksAlike_data _).required alike (by decide))

theorem PropertyReference.checksAlike : ChecksAlike (.message .propertyReference) check := by
  refine checksAlike_message ofEntries (fun same => by simp only [check, same])
    (fun at_v => by simp only [check, at_v]) fun alike => ?_
  exact (Checked.Respelt.ok _).and ((checksAlike_data _).required alike (by decide))

theorem Projection.checksAlike : ChecksAlike (.message .projection) check := by
  refine checksAlike_message ofEntries (fun same => by simp only [check, same])
    (fun at_v => by simp only [check, at_v]) fun alike => ?_
  exact (Checked.Respelt.ok _).and (PropertyReference.checksAlike.required alike (by decide))

theorem PropertyOrder.checksAlike : ChecksAlike (.message .propertyOrder) check := by
  refine checksAlike_message ofEntries (fun same => by simp only [check, same])
    (fun at_v => by simp only [check, at_v]) fun alike => ?_
  exact ((Checked.Respelt.ok _).and
    (PropertyReference.checksAlike.required alike (by decide))).and
    ((checksAlike_data _).defaulted alike (by decide) _)

theorem PropertyFilter.checksAlike : ChecksAlike (.message .propertyFilter) check := by
  refine checksAlike_message ofEntries (fun same => by simp only [check, same])
    (fun at_v => by simp only [check, at_v]) fun alike => ?_
  exact (((Checked.Respelt.ok _).and
    (PropertyReference.checksAlike.required alike (by decide))).and
    ((checksAlike_data _).required alike (by decide))).and
    ((checksAlike_data _).required alike (by decide))

theorem PartitionId.checksAlike : ChecksAlike (.message .partitionId) check := by
  refine checksAlike_message ofEntries (fun same => by simp only [check, same])
    (fun at_v => by simp only [check, at_v]) fun alike => ?_
  exact ((Checked.Respelt.ok _).and ((checksAlike_data _).defaulted alike (by decide) _)).and
    ((checksAlike_data _).defaulted alike (by decide) _)

/-! ## Filters -/

/-- Data that has been refused for being too deep, up to names of fields. -/
abbrev RefusedAlike : List Value → List Value → Prop :=
  List.Forall₂ (Respelt (.message .filter))

/-- Results of a check that goes down are alike, and so is what has been refused by then. The second
part is what the next check in the same `Descent` starts from. -/
structure DescentAlike {α : Type} (part : Part) (d d' : Checked α × List Value) : Prop where
  result : Checked.Respelt part d.1 d'.1
  refused : RefusedAlike d.2 d'.2

/-- A check that goes down, and whose results for respelt data are alike. -/
def DescendsAlike {α : Type} (part : Part) (check : Value → Descent α) : Prop :=
  ∀ ⦃v v' : Value⦄ ⦃refused refused' : List Value⦄,
    Respelt part v v' → RefusedAlike refused refused' →
      DescentAlike part (check v refused) (check v' refused')

section

variable {refused refused' : List Value} (before : RefusedAlike refused refused')

include before

/-- Data is refused again alike: `identical` goes by places, and by what constants and small values
are, and never looks at names. -/
theorem RefusedAlike.any_identical {v v' : Value} (h : Respelt (.message .filter) v v') :
    refused.any v.identical = refused'.any v'.identical := by
  induction before with
  | nil => rfl
  | cons first _ ih => rw [List.any_cons, List.any_cons, h.identical first, ih]

theorem DescendsAlike.field {α : Type} {part : Part} {cls : MessageClass} {field : Spelling}
    {check : Value → Descent α} (h : DescendsAlike part check)
    {entries entries' : List (Value × Value)} (alike : FieldsAlike cls entries entries')
    (isField : (field, part) ∈ cls.parts) (absent : α) :
    DescentAlike (.message cls) (field.descend absent check entries refused)
      (field.descend absent check entries' refused') := by
  have given := alike isField
  unfold Spelling.descend
  generalize field.given? entries = given?, field.given? entries' = given'? at given
  cases given with
  | none => exact ⟨.ok absent, before⟩
  | some isName isName' value =>
      have down := h value before
      exact ⟨down.result.under (.field isField isName isName'), down.refused⟩

variable {check : Value → Descent (Filter Value)} (h : DescendsAlike (.message .filter) check)

include h

theorem Filter.checkItems_alike {items items' : List Value}
    (each : List.Forall₂ (Respelt (.message .filter)) items items') (index : Nat) :
    DescentAlike (.messages .filter) (checkItems check index items refused)
      (checkItems check index items' refused') := by
  induction each generalizing index refused refused' with
  | nil => exact ⟨.ok [], before⟩
  | cons first _ ih =>
      have here := h first before
      have later := ih here.refused (index + 1)
      exact ⟨((Checked.Respelt.ok _).and (here.result.under .item)).and later.result,
        later.refused⟩

theorem CompositeFilter.descend_alike {entries entries' : List (Value × Value)}
    (alike : FieldsAlike .compositeFilter entries entries') :
    DescentAlike (.message .compositeFilter) (descend check entries refused)
      (descend check entries' refused') := by
  have sequence : DescendsAlike (.messages .filter) (Filter.checkSequence check) := by
    intro v v' refused refused' respelt before
    have items := respelt.sequence?
    unfold Filter.checkSequence
    generalize v.sequence? = items?, v'.sequence? = items'? at items
    cases items with
    | none => exact ⟨.refl _, before⟩
    | some each => exact Filter.checkItems_alike before h each 0
  have isField : (Field.filters, .messages .filter) ∈ MessageClass.compositeFilter.parts := by
    decide
  have filters := sequence.field before alike isField []
  exact ⟨((Checked.Respelt.ok _).and ((checksAlike_data _).defaulted alike (by decide) _)).and
    filters.result, filters.refused⟩

end

theorem CompositeFilter.descendsAlike {check : Value → Descent (Filter Value)}
    (h : DescendsAlike (.message .filter) check) :
    DescendsAlike (.message .compositeFilter) (descend? check) := by
  intro v v' refused refused' respelt before
  unfold descend?
  obtain ⟨entries, entries', at_v, at_v', alike⟩ | ⟨same, noMapping⟩ := respelt.seen
  · rw [at_v, at_v']
    have down := descend_alike before h alike
    exact ⟨down.result.map some, down.refused⟩
  · rw [← same]
    split
    · exact ⟨.ok none, before⟩
    · exact ⟨.ok _, before⟩
    · next at_v => exact absurd at_v (noMapping _)
    · exact ⟨.refl _, before⟩

/-- Filters from respelt data are alike. The induction is on the levels that are left; what is
`inside` of the same places stays inside of them, as `identical` shows. -/
theorem Filter.checkIn_descendsAlike (levels : Nat) (inside : List Nat) :
    DescendsAlike (.message .filter) (checkIn levels inside) := by
  induction levels generalizing inside with
  | zero =>
      intro v v' refused refused' respelt before
      rw [checkIn, checkIn, respelt.isAmong, before.any_identical respelt]
      split
      · exact ⟨.refl _, before⟩
      · exact ⟨.refl _, .cons respelt before⟩
  | succ levels ih =>
      intro v v' refused refused' respelt before
      rw [checkIn, checkIn, respelt.isAmong, before.any_identical respelt, respelt.place?]
      split
      · exact ⟨.refl _, before⟩
      · obtain ⟨entries, entries', at_v, at_v', alike⟩ | ⟨same, noMapping⟩ := respelt.seen
        · rw [at_v, at_v']
          have isProperty : (Field.propertyFilter, .message .propertyFilter) ∈
              MessageClass.filter.parts := by decide
          have isComposite : (Field.compositeFilter, .message .compositeFilter) ∈
              MessageClass.filter.parts := by decide
          have property := PropertyFilter.checksAlike.optional.defaulted alike isProperty none
          have composite := (CompositeFilter.descendsAlike (ih (v'.place?.toList ++ inside))).field
            before alike isComposite none
          exact ⟨(((Checked.Respelt.ok _).and property).and composite.result).bind _,
            composite.refused⟩
        · rw [← same]
          split
          · exact ⟨.ok _, before⟩
          · next at_v => exact absurd at_v (noMapping _)
          · exact ⟨.refl _, before⟩

theorem Filter.checksAlike : ChecksAlike (.message .filter) check := fun _ _ respelt =>
  (checkIn_descendsAlike _ _ respelt .nil).result

theorem CompositeFilter.checksAlike : ChecksAlike (.message .compositeFilter) check := by
  refine checksAlike_message ofEntries (fun same => by simp only [check, same])
    (fun at_v => by simp only [check, at_v]) fun alike => ?_
  exact (descend_alike .nil (Filter.checkIn_descendsAlike _ _) alike).result

/-! ## All classes -/

theorem QueryMessage.checksAlike : ChecksAlike (.message .query) check := by
  have filter : ChecksAlike (.message .filter) fun v => (Filter.checkInMessage v []).1 :=
    fun _ _ respelt => (Filter.checkIn_descendsAlike _ _ respelt .nil).result
  refine checksAlike_message ofEntries (fun same => by simp only [check, same])
    (fun at_v => by simp only [check, at_v]) fun alike => ?_
  exact ((((((((Checked.Respelt.ok _).and
    (KindExpression.checksAlike.sequence.defaulted alike (by decide) _)).and
    (Projection.checksAlike.sequence.defaulted alike (by decide) _)).and
    (filter.optional.defaulted alike (by decide) _)).and
    (PropertyOrder.checksAlike.sequence.defaulted alike (by decide) _)).and
    (PropertyReference.checksAlike.sequence.defaulted alike (by decide) _)).and
    ((checksAlike_data _).defaulted alike (by decide) _)).and
    ((checksAlike_data _).defaulted alike (by decide) _)).and
    ((checksAlike_data _).defaulted alike (by decide) _)

theorem RequestMessage.checksAlike : ChecksAlike (.message .request) check := by
  refine checksAlike_message ofEntries (fun same => by simp only [check, same])
    (fun at_v => by simp only [check, at_v]) fun alike => ?_
  exact ((Checked.Respelt.ok _).and (PartitionId.checksAlike.required alike (by decide))).and
    (QueryMessage.checksAlike.required alike (by decide))

theorem Message.checkBare_alike : ChecksAlike (.message .bare) checkBare :=
  checksAlike_message (fun _ => .ok .bare)
    (fun same => by simp only [checkBare, same]) (fun at_v => by simp only [checkBare, at_v])
    fun _ => .ok _

/-- The check of every class has results that are alike. -/
theorem Message.checksAlike (cls : MessageClass) : ChecksAlike (.message cls) (check cls) := by
  intro v v' respelt
  cases cls with
  | bare => exact checkBare_alike respelt
  | kindExpression => exact (KindExpression.checksAlike respelt).map _
  | propertyReference => exact (PropertyReference.checksAlike respelt).map _
  | projection => exact (Projection.checksAlike respelt).map _
  | propertyOrder => exact (PropertyOrder.checksAlike respelt).map _
  | propertyFilter => exact (PropertyFilter.checksAlike respelt).map _
  | compositeFilter => exact (CompositeFilter.checksAlike respelt).map _
  | filter => exact (Filter.checksAlike respelt).map _
  | query => exact (QueryMessage.checksAlike respelt).map _
  | partitionId => exact (PartitionId.checksAlike respelt).map _
  | request => exact (RequestMessage.checksAlike respelt).map _

/-- Data and `Respelt` data, with other names for some of its fields and with anything or nothing
under the plain names of fields that have their wire names too, are validated to the same message,
or fail in the same way. If they are refused, it is for the same problems, at places that differ in
the names of fields at most. -/
theorem Message.validate_respelt {cls : MessageClass} {v v' : Value}
    (respelt : Respelt (.message cls) v v') :
    Message.validate cls v' = Message.validate cls v ∨
      ∃ found found', Message.validate cls v = .error (.invalid cls found) ∧
        Message.validate cls v' = .error (.invalid cls found') ∧
        List.Forall₂ (Problem.Respelt (.message cls)) found found' := by
  have alike := Message.checksAlike cls respelt
  unfold Message.validate
  generalize Message.check cls v = c, Message.check cls v' = c' at alike
  cases alike with
  | ok m => exact .inl rfl
  | problems each => exact .inr ⟨_, _, rfl, rfl, each⟩
  | failed e => exact .inl rfl

/-- A mapping with one field may have either of its names. -/
theorem Respelt.single {cls : MessageClass} {field : Spelling} {part : Part}
    (isField : (field, part) ∈ cls.parts) {name name' : String} (isName : name ∈ field.names)
    (isName' : name' ∈ field.names) {v v' : Value} (value : Respelt part v v') :
    Respelt (.message cls) (.mapping [(.text name, v)]) (.mapping [(.text name', v')]) := by
  have once : field.GivenOnce [name] := by
    intro wire plain
    rw [List.mem_singleton.mp wire, List.mem_singleton.mp plain]
  exact .mapping (List.pairwise_singleton _ _)
    (.field isField once ⟨name, isName, rfl⟩ ⟨name', isName', rfl⟩ value .nil)

/-- A combination of two filters on data without an operator. The second one is given under both
names, and what is there under the plain one does not count. -/
def spelledFilter (composite property : String) (beside : Value) : Value :=
  let leaf : Value := .mapping [(.text "property", .mapping [(.text "name", .text "a")]),
    (.text "value", .mapping [(.text "property_filter", .int 1)]), (.text "filters", .none)]
  .mapping [(.text composite, .mapping [(.text "filters", .tuple [
    .mapping [(.text property, leaf)],
    .mapping [(.text "property_filter", beside), (.text "propertyFilter", leaf)]])])]

/-- Under other names `spelledFilter` is refused for the same problems. -/
theorem Message.validate_respelt_filter :
    let v := spelledFilter "composite_filter" "property_filter" (.int 5)
    let v' := spelledFilter "compositeFilter" "propertyFilter" .none
    let found : List Problem := [
      ⟨[.key "composite_filter", .key "filters", .index 0, .key "property_filter", .key "op"],
        .missing⟩,
      ⟨[.key "composite_filter", .key "filters", .index 1, .key "propertyFilter", .key "op"],
        .missing⟩]
    Respelt (.message .filter) v v' ∧ Message.validate .filter v = .error (.invalid .filter found) ∧
      ∃ found', Message.validate .filter v' = .error (.invalid .filter found') ∧
        List.Forall₂ (Problem.Respelt (.message .filter)) found found' := by
  intro v v' found
  have isComposite : (Field.compositeFilter, Part.message .compositeFilter) ∈
      MessageClass.filter.parts := by decide
  have isProperty : (Field.propertyFilter, Part.message .propertyFilter) ∈
      MessageClass.filter.parts := by decide
  have isFilters : (Field.filters, Part.messages .filter) ∈ MessageClass.compositeFilter.parts := by
    decide
  have first : ∀ {leaf : Value}, Respelt (.message .filter)
      (.mapping [(.text "property_filter", leaf)]) (.mapping [(.text "propertyFilter", leaf)]) :=
    .single isProperty (by decide) (by decide) (.same _ _)
  have second : ∀ {leaf : Value}, Respelt (.message .filter)
      (.mapping [(.text "property_filter", .int 5), (.text "propertyFilter", leaf)])
      (.mapping [(.text "property_filter", .none), (.text "propertyFilter", leaf)]) := by
    intro leaf
    exact .mapping (show ["property_filter", "propertyFilter"].Nodup by decide)
      (.replaced isProperty (show _ ∈ ["property_filter", "propertyFilter"] by decide) (by decide)
        rfl (.wire isProperty rfl (.same _ _) .nil))
  have respelt : Respelt (.message .filter) v v' :=
    .single isComposite (by decide) (by decide) (.single isFilters (by decide) (by decide)
      (.tuple (.cons first (.cons second .nil))))
  have refused : Message.validate .filter v = .error (.invalid .filter found) := by rfl
  refine ⟨respelt, refused, ?_⟩
  obtain same | ⟨found₀, found', refused₀, refused', each⟩ := Message.validate_respelt respelt
  · exact ⟨found, same.trans refused, List.forall₂_same.mpr fun p _ => ⟨.same _ _, rfl⟩⟩
  · obtain ⟨-, rfl⟩ := Failure.invalid.inj (Except.error.inj (refused₀.symm.trans refused))
    exact ⟨found', refused', each⟩

end EntityQuery
