import EntityQuery.Proofs.Encoding

/-!
# Bodies are read back

Validating the body of a message gives the message again. Encoder and validation are told apart
by one field only: a cursor is written as base64 text, and a text that is given for bytes is
taken for the bytes of the text, so a cursor comes back as the text of the old one.

* `Value.IsJson` is the data that the format can spell itself, so that nothing is rewritten when
  it is encoded; `Value.encoded_alike` says that what is written equals what was there.
* `Message.reread` is what comes back for a message. It equals the message but for the cursor
  (`Message.reread_alike`), and as the text is longer than every cursor but the empty one, it
  equals the message exactly if there is no cursor or an empty one.
* `Filter.checkIn_encoded` is the induction: filters that fit into a body are not too deep to be
  validated, since a filter takes as many levels in the one as in the other.
* `Message.validate_body` puts the parts together for the messages of all classes.
-/

namespace EntityQuery

/-! ## Cursors -/

namespace Text

theorem utf8EncodeChar_of_lt {c : Char} (h : c.toNat < 128) :
    String.utf8EncodeChar c = [UInt8.ofNat c.toNat] := by
  have one : c.utf8Size = 1 := by
    rw [Char.utf8Size_eq_one_iff, UInt32.le_iff_toNat_le]
    exact Nat.le_of_lt_succ h
  exact String.utf8EncodeChar_eq_singleton one

theorem Utf8.encode_ofList {chars : List Char} (h : ∀ c ∈ chars, c.toNat < 128) :
    Utf8.encode (String.ofList chars) = chars.map fun c => UInt8.ofNat c.toNat := by
  unfold Utf8.encode
  rw [String.toByteArray_ofList]
  induction chars with
  | nil => rfl
  | cons c rest ih =>
      simp only [List.forall_mem_cons] at h
      rw [List.utf8Encode_cons, List.utf8Encode_singleton, utf8EncodeChar_of_lt h.1,
        List.map_cons, ← ih h.2]
      simp

theorem Base64.toNat_lt_of_mem_encodeChars {bytes : List UInt8} {c : Char}
    (h : c ∈ Base64.encodeChars bytes) : c.toNat < 128 := by
  have digits : ∀ n, (Base64.digit n).toNat < 128 := by
    intro n
    have all : ∀ m : Fin 64, (Base64.digit m).toNat < 128 := by decide +kernel
    simpa [Base64.digit] using all ⟨n % 64, Nat.mod_lt _ (by decide)⟩
  have fill : Base64.padding.toNat < 128 := by decide
  induction bytes using Base64.encodeChars.induct with
  | case1 => cases h
  | case2 a =>
      simp only [Base64.encodeChars, List.mem_cons, List.not_mem_nil, or_false] at h
      rcases h with rfl | rfl | rfl | rfl
      · exact digits _
      · exact digits _
      · exact fill
      · exact fill
  | case3 a b =>
      simp only [Base64.encodeChars, List.mem_cons, List.not_mem_nil, or_false] at h
      rcases h with rfl | rfl | rfl | rfl
      · exact digits _
      · exact digits _
      · exact digits _
      · exact fill
  | case4 a b c' rest ih =>
      simp only [Base64.encodeChars, List.mem_cons] at h
      rcases h with rfl | rfl | rfl | rfl | later
      · exact digits _
      · exact digits _
      · exact digits _
      · exact digits _
      · exact ih later

/-- Base64 text has more characters than there were bytes, unless there were none. -/
theorem Base64.length_lt_length_encodeChars {bytes : List UInt8} (h : bytes ≠ []) :
    bytes.length < (Base64.encodeChars bytes).length := by
  induction bytes using Base64.encodeChars.induct with
  | case1 => exact absurd rfl h
  | case2 a | case3 a b => simp [Base64.encodeChars]
  | case4 a b c rest ih =>
      simp only [Base64.encodeChars, List.length_cons]
      -- Nothing may follow the group, and then its four characters for three bytes are enough.
      cases rest with
      | nil => simp
      | cons d rest =>
          have := ih (List.cons_ne_nil d rest)
          omega

end Text

/-- The bytes of the base64 text of a cursor, in ASCII. `Message.body` writes a cursor as
`Text.Base64.encode` does, and `checkBytes` takes any text for its UTF-8 bytes, so that what is read
back is the text and not what it stands for. -/
def cursorText (cursor : List UInt8) : List UInt8 :=
  (Text.Base64.encodeChars cursor).map fun c => UInt8.ofNat c.toNat

/-- The cursor of a body is read as `cursorText`, never as the cursor itself. -/
theorem checkBytes_encode (cursor : List UInt8) :
    checkBytes (.text (Text.Base64.encode cursor)) = .ok (cursorText cursor) := by
  have bytes : Text.Utf8.encode (Text.Base64.encode cursor) = cursorText cursor :=
    Text.Utf8.encode_ofList fun _ => Text.Base64.toNat_lt_of_mem_encodeChars
  exact congrArg Except.ok bytes

/-- Base64 lengthens whatever is not empty, so only the empty cursor comes back as it was. -/
theorem cursorText_eq_self_iff {cursor : List UInt8} :
    cursorText cursor = cursor ↔ cursor = [] := by
  constructor
  · intro same
    by_cases empty : cursor = []
    · exact empty
    · have longer := Text.Base64.length_lt_length_encodeChars empty
      have length := congrArg List.length same
      rw [cursorText, List.length_map] at length
      omega
  · rintro rfl
    rfl

/-! ## JSON data -/

/-- JSON data, inside of the places in `inside`: `Value.IsData` without floats, bytes, members and
tuples, which come back as something else. A place must not occur inside of itself, which is what
keeps `encoded` from being cut short. -/
inductive Value.IsJson : List Nat → Value → Prop where
  | none {inside : List Nat} : IsJson inside .none
  | bool {inside : List Nat} (b : Bool) : IsJson inside (.bool b)
  | int {inside : List Nat} (i : Int) : IsJson inside (.int i)
  | text {inside : List Nat} (s : String) : IsJson inside (.text s)
  | list {inside : List Nat} {items : List Value} (parts : ∀ v ∈ items, IsJson inside v) :
      IsJson inside (.list items)
  | mapping {inside : List Nat} {entries : List (Value × Value)} (keys : TextKeys entries)
      (parts : ∀ e ∈ entries, IsJson inside e.2) : IsJson inside (.mapping entries)
  /-- What is at a place that is not around it. -/
  | object {inside : List Nat} {number : Nat} {look : Unit → Value} (outside : number ∉ inside)
      (seen : IsJson (number :: inside) (look ())) : IsJson inside (.object number look)

theorem Value.IsJson.isData {inside : List Nat} {v : Value} (h : v.IsJson inside) :
    v.IsData inside := by
  induction h with
  | none => exact .none
  | bool b => exact .bool b
  | int i => exact .int i
  | text s => exact .text s
  | list _ ih => exact .list ih
  | mapping keys _ ih => exact .mapping keys ih
  | object outside _ ih => exact .object outside ih

/-- A mapping from texts to JSON data, no two texts the same. -/
structure IsJsonMapping (value : List (String × Value)) : Prop where
  nodup : (value.map Prod.fst).Nodup
  values : ∀ e ∈ value, e.2.IsJson []

theorem IsJsonMapping.isDataMapping {value : List (String × Value)} (h : IsJsonMapping value) :
    IsDataMapping value := fun e he => (h.values e he).isData

/-- `Filter.Holds` is monotone in what is asked of the mappings. `IsJsonMapping` is used here where
the lemmas on encoding ask for `IsDataMapping`. -/
theorem Filter.Holds.mono {wanted wanted' : List (String × Value) → Prop}
    (weaken : ∀ {value}, wanted value → wanted' value) {f : Filter Value} (h : f.Holds wanted) :
    f.Holds wanted' := by
  induction h with
  | property mapping => exact .property (weaken mapping)
  | composite _ ih => exact .composite ih

theorem Message.Holds.mono {wanted wanted' : List (String × Value) → Prop}
    (weaken : ∀ {value}, wanted value → wanted' value) {m : Message Value} (h : m.Holds wanted) :
    m.Holds wanted' := by
  cases m with
  | propertyFilter m => exact weaken h
  | compositeFilter m => exact fun f hf => (h f hf).mono weaken
  | filter f => exact Filter.Holds.mono weaken h
  | query m => exact fun f hf => (h f hf).mono weaken
  | request m => exact fun f hf => (h f hf).mono weaken
  | _ => trivial

/-! ## What is written equals what was there -/

/-- Encoded forms have no places, so `alikeIn` never takes one for something that it has met
before. -/
theorem Value.place?_encoded (v : Value) : v.encoded.place? = Option.none := by
  cases v with
  | object _ look => exact place?_encoded (look ())
  | float x => simp only [encoded]; split <;> rfl
  | _ => rfl

/-- What has no place is compared with what is seen at one. -/
theorem Value.alikeIn_object {v : Value} (h : v.place? = Option.none) (met : List (Nat × Nat))
    (number : Nat) (look : Unit → Value) :
    v.alikeIn met (.object number look) = v.alikeIn met (look ()) := by
  cases v with
  | object _ _ => simp [place?] at h
  | _ => rfl

/-- Where no two items have the same key, every item is found by its own. `alikeEntries` compares
mappings by looking up, and this is what makes such a lookup hit the entry that is meant. -/
theorem find?_of_nodup {α β : Type} {key : α → β} {finds : α → Bool} {items : List α} {a : α}
    (same : ∀ b ∈ items, finds b = true ↔ key b = key a) (nodup : (items.map key).Nodup)
    (h : a ∈ items) : items.find? finds = some a := by
  induction items with
  | nil => cases h
  | cons first rest ih =>
      simp only [List.forall_mem_cons] at same
      simp only [List.map_cons, List.nodup_cons] at nodup
      cases h with
      | head => rw [List.find?_cons_of_pos (same.1.mpr rfl)]
      | tail _ later =>
          have differ : ¬ finds first = true := by
            intro found
            exact nodup.1 (List.mem_map.mpr ⟨a, later, (same.1.mp found).symm⟩)
          rw [List.find?_cons_of_neg differ]
          exact ih same.2 nodup.2 later

/-- In a mapping from texts, every entry is found by its text. -/
theorem TextKeys.find?_eq {entries : List (Value × Value)} (keys : TextKeys entries)
    {e : Value × Value} (h : e ∈ entries) :
    entries.find? (fun other => other.1.asText? == some e.1.textOf) = some e := by
  refine find?_of_nodup (fun other ho => ?_) keys.nodup h
  rw [Value.asText?_eq_some_textOf (keys.texts other ho)]
  simp

/-- Encoded items are alike to the items if each is. -/
theorem alikeItems_encoded {met : List (Nat × Nat)} {items : List Value}
    (each : ∀ v ∈ items, v.encoded.alikeIn met v = true) :
    alikeItems met (encodedItems items) items = true := by
  induction items with
  | nil => rfl
  | cons v rest ih =>
      simp only [List.forall_mem_cons] at each
      simp [encodedItems, alikeItems, each.1, ih each.2]

/-- The entries `part` of a mapping from texts are found among all its entries. It is stated for a
part, since `alikeEntries` goes down one list and looks into the other. -/
theorem alikeEntries_encoded {met : List (Nat × Nat)} {entries part : List (Value × Value)}
    (keys : TextKeys entries) (among : ∀ e ∈ part, e ∈ entries)
    (each : ∀ e ∈ part, e.2.encoded.alikeIn met e.2 = true) :
    alikeEntries met (plainFields (encodedEntries part)) entries = true := by
  -- The induction goes through a part of the entries, but each is looked up among all.
  induction part with
  | nil => rfl
  | cons e rest ih =>
      obtain ⟨k, v⟩ := e
      simp only [List.forall_mem_cons] at among each
      have found := keys.find?_eq among.1
      have others := ih among.2 each.2
      simp only [plainFields, encodedEntries, List.map_cons, alikeEntries, Value.alikeIn]
        at others ⊢
      rw [found, others]
      simpa using each.1

theorem length_encodedEntries (entries : List (Value × Value)) :
    (encodedEntries entries).length = entries.length := by
  induction entries with
  | nil => rfl
  | cons e rest ih => simp [encodedEntries, ih]

/-- JSON data is encoded as something that `alike` takes for it. The induction is on `IsJson`, with
the pairs of places that have been met left open. -/
theorem Value.encoded_alike {inside : List Nat} {v : Value} (h : v.IsJson inside)
    (met : List (Nat × Nat)) : v.encoded.alikeIn met v = true := by
  induction h with
  | none => rfl
  | bool b => simp [encoded, alikeIn, isInt]
  | int i => simp [encoded, alikeIn, isInt]
  | text s => simp [encoded, alikeIn, asText?]
  | list _ ih => simpa [encoded, alikeIn, content] using alikeItems_encoded ih
  | @mapping _ entries keys _ ih =>
      have alike := alikeEntries_encoded keys (fun _ he => he) ih
      simp only [plainFields] at alike
      simp [encoded, ofTexts, alikeIn, content, alike, length_encodedEntries]
  | object _ _ ih =>
      rw [alikeIn_object (place?_encoded _)]
      exact ih

/-! ## What is read back -/

/-- A property filter as it is read back. -/
def PropertyFilter.reread (m : PropertyFilter Value) : PropertyFilter Value :=
  ⟨m.property, m.op, encodedMapping m.value, none⟩

mutual

/-- A filter as it is read back: `checkIn` makes new filters with values that have no places, and
drops the mark of a `composite`. -/
def Filter.reread : Filter Value → Filter Value
  | .property m => .property m.reread
  | .composite op filters _ => .composite op (rereadFilters filters) none
termination_by structural f => f

/-- Filters as they are read back. -/
def rereadFilters : List (Filter Value) → List (Filter Value)
  | [] => []
  | f :: rest => f.reread :: rereadFilters rest
termination_by structural filters => filters

end

/-- A compiled query as it is read back, with the text of its cursor in place of the cursor. -/
def QueryMessage.reread (m : QueryMessage Value) : QueryMessage Value :=
  { m with filter := m.filter.map Filter.reread, startCursor := m.startCursor.map cursorText }

/-- A message as it is read back. -/
def Message.reread : Message Value → Message Value
  | .propertyFilter m => .propertyFilter m.reread
  | .compositeFilter m => .compositeFilter ⟨m.op, rereadFilters m.filters, none⟩
  | .filter f => .filter f.reread
  | .query m => .query m.reread
  | .request m => .request ⟨m.partitionId, m.query.reread⟩
  | m => m

/-- The cursor of the query in a message, if there are both. -/
def Message.cursor? : Message Value → Option (List UInt8)
  | .query m => m.startCursor
  | .request m => m.query.startCursor
  | _ => none

/-- A message with another cursor for the query in it, if there is one. -/
def Message.withCursor (cursor : Option (List UInt8)) : Message Value → Message Value
  | .query m => .query { m with startCursor := cursor }
  | .request m => .request ⟨m.partitionId, { m.query with startCursor := cursor }⟩
  | m => m

/-- Some encoded entries of a mapping are found among its entries. -/
theorem alikeMapping_encoded {met : List (Nat × Nat)} {value part : List (String × Value)}
    (h : IsJsonMapping value) (among : ∀ e ∈ part, e ∈ value) :
    alikeMapping met (encodedMapping part) value = true := by
  induction part with
  | nil => rfl
  | cons e rest ih =>
      simp only [List.forall_mem_cons] at among
      have found : value.find? (fun other => e.1 == other.1) = some e :=
        find?_of_nodup (fun other _ => beq_iff_eq.trans eq_comm) h.nodup among.1
      have others := ih among.2
      simp only [encodedMapping, List.map_cons, alikeMapping] at others ⊢
      rw [found, others]
      simpa using Value.encoded_alike (h.values e among.1) met

/-- A property filter comes back as one that equals it. -/
theorem PropertyFilter.reread_alike {m : PropertyFilter Value} (h : IsJsonMapping m.value)
    (met : List (Nat × Nat)) : alikePropertyFilter met m.reread m = true := by
  have alike : alikeMapping met (encodedMapping m.value) m.value = true :=
    alikeMapping_encoded h fun _ he => he
  simp [reread, alikePropertyFilter, encodedMapping] at alike ⊢
  exact alike

theorem alikeFilters_reread {met : List (Nat × Nat)} {filters : List (Filter Value)}
    (each : ∀ f ∈ filters, alikeFilter met f.reread f = true) :
    alikeFilters met (rereadFilters filters) filters = true := by
  induction filters with
  | nil => rfl
  | cons f rest ih =>
      simp only [List.forall_mem_cons] at each
      simp [rereadFilters, alikeFilters, each.1, ih each.2]

/-- `reread` loses nothing that `alike` looks at. -/
theorem Filter.reread_alike {f : Filter Value} (h : f.Holds IsJsonMapping)
    (met : List (Nat × Nat)) : alikeFilter met f.reread f = true := by
  induction h with
  | property mapping => exact PropertyFilter.reread_alike mapping met
  | composite _ ih => simpa [reread, alikeFilter] using alikeFilters_reread ih

/-- The fields of a query are the same again, but for `startCursor`, which is put in from outside
here. -/
theorem QueryMessage.reread_alike {m : QueryMessage Value}
    (h : ∀ f ∈ m.filter, f.Holds IsJsonMapping) (met : List (Nat × Nat))
    (cursor : Option (List UInt8)) :
    alikeQueryMessage met { m.reread with startCursor := cursor } m =
      (cursor == m.startCursor) := by
  have filter : alikeFilter? met (m.filter.map Filter.reread) m.filter = true := by
    cases found : m.filter with
    | none => rfl
    | some f => exact Filter.reread_alike (h f found) met
  simp [reread, alikeQueryMessage, filter]

theorem Value.alike_message (m m' : Message Value) :
    (Value.message m).alike (.message m') = alikeMessage [] m m' := rfl

/-- A message comes back as one that equals it, the cursor aside. -/
theorem Message.reread_alike {m : Message Value} (h : m.Holds IsJsonMapping) :
    (Value.message (m.reread.withCursor m.cursor?)).alike (.message m) = true := by
  cases m with
  | propertyFilter m => exact PropertyFilter.reread_alike h []
  | compositeFilter m =>
      have parts := alikeFilters_reread fun f hf => Filter.reread_alike (h f hf) []
      simpa [Value.alike_message, reread, withCursor, alikeMessage] using parts
  | filter f => exact Filter.reread_alike h []
  | query m => exact (QueryMessage.reread_alike h [] m.startCursor).trans (by simp)
  | request m =>
      have query := QueryMessage.reread_alike h [] m.query.startCursor
      simpa [Value.alike_message, reread, withCursor, cursor?, alikeMessage] using query
  | _ => simp [Value.alike_message, reread, withCursor, alikeMessage]

/-- `reread` equals the message just if `cursorText` changes nothing. -/
theorem Message.reread_alike_iff {m : Message Value} (h : m.Holds IsJsonMapping) :
    (Value.message m.reread).alike (.message m) = true ↔ ∀ b ∈ m.cursor?, b = [] := by
  have written : ∀ cursor : Option (List UInt8),
      (cursor.map cursorText == cursor) = true ↔ ∀ b ∈ cursor, b = [] := by
    intro cursor
    cases cursor with
    | none => simp
    | some b => simp [cursorText_eq_self_iff]
  cases m with
  | query m =>
      rw [cursor?, ← written, ← QueryMessage.reread_alike h []]
      rfl
  | request m =>
      rw [cursor?, ← written, ← QueryMessage.reread_alike h []]
      simp [Value.alike_message, reread, alikeMessage, QueryMessage.reread]
  | _ =>
      have same := Message.reread_alike h
      simp only [reread, withCursor] at same
      simp [cursor?, reread, same]

/-! ## Validation of bodies -/

theorem KindExpression.check_body (m : KindExpression) : check m.body = .ok m := by
  simp [check, body, ofEntries, Field.name, Spelling.same, Spelling.required, checkText,
    Value.content]

theorem PropertyReference.check_body (m : PropertyReference) : check m.body = .ok m := by
  simp [check, body, ofEntries, Field.name, Spelling.same, Spelling.required, checkText,
    Value.content]

theorem Projection.check_body (m : Projection) : check m.body = .ok m := by
  simp [check, body, ofEntries, Field.property, Spelling.same, Spelling.required,
    PropertyReference.check_body]

theorem checkDirection_spelling (d : Direction) : checkDirection (.text d.spelling) = .ok d :=
  checkMember_of_spelling rfl (Direction.ofSpelling?_spelling d)

theorem PropertyOrder.check_body (m : PropertyOrder) : check m.body = .ok m := by
  simp [check, body, ofEntries, Field.property, Field.direction, Spelling.same, Spelling.required,
    Spelling.defaulted, List.lookup_cons, PropertyReference.check_body, checkDirection_spelling]

theorem PartitionId.check_body (m : PartitionId) : check m.body = .ok m := by
  obtain ⟨projectId, namespaceId⟩ := m
  cases projectId <;> cases namespaceId <;>
    simp [check, body, optionalField, ofEntries, Field.projectId, Field.namespaceId,
      Spelling.defaulted, List.lookup_cons, checkOptional, Value.isNone, checkText, Value.content,
      Except.map]

/-- `checkMapping` reads the encoded mapping of a property filter: its keys are texts, and they stay
apart. -/
theorem checkMapping_encoded {value : List (String × Value)} (h : IsJsonMapping value) :
    checkMapping (.ofTexts (encodedMapping value)) = .ok (encodedMapping value) := by
  have nodup : ((encodedMapping value).map Prod.fst).Nodup := by
    simpa [encodedMapping, Function.comp_def] using h.nodup
  have read := (textKeys_plainFields nodup).checkMapping_eq (Value.content_ofTexts _)
  rwa [textFields_plainFields] at read

theorem PropertyFilter.check_encoded {m : PropertyFilter Value} (h : IsJsonMapping m.value) :
    check m.encoded = .ok m.reread := by
  have op : checkPropertyOperator (.text m.op.spelling) = .ok m.op :=
    checkMember_of_spelling rfl (PropertyOperator.ofSpelling?_spelling m.op)
  simp [check, encoded, bodyOf, ofEntries, Field.property, Field.op, Field.value, Spelling.same,
    Spelling.required, List.lookup_cons, PropertyReference.check_body, op, checkMapping_encoded h,
    reread]

/-! ## Filters, which nest -/

theorem encodedFilters_eq_map (filters : List (Filter Value)) :
    encodedFilters filters = filters.map Filter.encoded := by
  induction filters with
  | nil => rfl
  | cons f rest ih => simp [encodedFilters, ih]

theorem rereadFilters_eq_map (filters : List (Filter Value)) :
    rereadFilters filters = filters.map Filter.reread := by
  induction filters with
  | nil => rfl
  | cons f rest ih => simp [rereadFilters, ih]

/-- No filter takes more levels than the deepest, which hands the bound `levels ≤ Nesting.limit`
down to the parts of a composite. -/
theorem levels_le_levelsFilters {f : Filter Value} {filters : List (Filter Value)}
    (h : f ∈ filters) : f.levels ≤ levelsFilters filters := by
  induction filters with
  | nil => cases h
  | cons first rest ih =>
      rw [levelsFilters]
      cases h with
      | head => exact Nat.le_max_left _ _
      | tail _ later => exact Nat.le_trans (ih later) (Nat.le_max_right _ _)

/-- `Filter.checkSequence` on encoded filters, given what `check` does with each of them. The
recursion of `checkIn` is in `each` only, so this is an induction on the list alone. -/
theorem Filter.checkSequence_encoded {check : Value → Descent (Filter Value)}
    {filters : List (Filter Value)}
    (each : ∀ f ∈ filters, check f.encoded [] = (.ok f.reread, [])) :
    Filter.checkSequence check (.list (encodedFilters filters)) [] =
      (.ok (rereadFilters filters), []) := by
  have kept : ∀ v ∈ filters.map Filter.encoded, (check v []).2 = [] := by
    intro v hv
    obtain ⟨f, hf, rfl⟩ := List.mem_map.mp hv
    rw [each f hf]
  have items : Checked.items (fun v => (check v []).1) 0 (filters.map Filter.encoded) =
      .ok (filters.map Filter.reread) :=
    Checked.items_map (fun f hf => by rw [each f hf]) 0
  rw [encodedFilters_eq_map, rereadFilters_eq_map]
  simp only [Filter.checkSequence, Value.sequence?, Value.content,
    Filter.checkItems_eq_items kept, items]

/-- A composite filter is read back if none of its filters is too deep. -/
theorem CompositeFilter.descend_encoded {check : Value → Descent (Filter Value)}
    (op : CompositeOperator) {filters : List (Filter Value)}
    (each : ∀ f ∈ filters, check f.encoded [] = (.ok f.reread, [])) :
    CompositeFilter.descend check
        (plainFields [("op", .text op.spelling), ("filters", .list (encodedFilters filters))]) [] =
      (.ok ⟨op, rereadFilters filters, none⟩, []) := by
  have spelt : checkCompositeOperator (.text op.spelling) = .ok op :=
    checkMember_of_spelling rfl (CompositeOperator.ofSpelling?_spelling op)
  simp [descend, Field.op, Field.filters, Spelling.same, Spelling.defaulted, Spelling.descend,
    Spelling.given?, List.lookup_cons, spelt, Filter.checkSequence_encoded each]

/-- One step of `Filter.checkIn` on data without a place: the recursion guard has nothing to
recognise it by, so both readings are tried and combined. -/
theorem Filter.checkIn_ofTexts (levels : Nat) (inside : List Nat)
    (fields : List (String × Value)) :
    Filter.checkIn (levels + 1) inside (.ofTexts fields) [] =
      let property := Field.propertyFilter.defaulted none (checkOptional PropertyFilter.check)
        (plainFields fields)
      let composite := Field.compositeFilter.descend none
        (CompositeFilter.descend? (Filter.checkIn levels inside)) (plainFields fields) []
      (Filter.ofCheckedParts property composite.1, composite.2) := rfl

/-- A filter that takes no more levels than there are is read back, and the guard has refused
nothing on the way. By induction on the filter, with `levels` going down as `checkIn` does. -/
theorem Filter.checkIn_encoded {f : Filter Value} (h : f.Holds IsJsonMapping) (inside : List Nat)
    {levels : Nat} (enough : f.levels ≤ levels) :
    Filter.checkIn levels inside f.encoded [] = (.ok f.reread, []) := by
  induction h generalizing levels with
  | @property m mapping =>
      obtain ⟨levels, rfl⟩ : ∃ l, levels = l + 1 :=
        ⟨levels - 1, by simp only [Filter.levels] at enough; omega⟩
      have part : checkOptional PropertyFilter.check m.encoded = .ok (some m.reread) := by
        have present : m.encoded.isNone = false := rfl
        simp [checkOptional, present, PropertyFilter.check_encoded mapping, Except.map]
      rw [Filter.encoded, checkIn_ofTexts]
      simp [Field.propertyFilter, Field.compositeFilter, Spelling.defaulted, Spelling.descend,
        Spelling.given?, List.lookup_cons, part, reread, ofCheckedParts, ofParts, bind,
        Except.bind]
  | @composite op filters mark _ ih =>
      obtain ⟨levels, rfl⟩ : ∃ l, levels = l + 1 :=
        ⟨levels - 1, by simp only [Filter.levels] at enough; omega⟩
      -- A level is spent on the combination, and those left are enough for every filter in it.
      have parts : ∀ f ∈ filters,
          Filter.checkIn levels inside f.encoded [] = (.ok f.reread, []) := by
        intro f hf
        have within := levels_le_levelsFilters hf
        simp only [Filter.levels] at enough
        exact ih f hf (by omega)
      have part : CompositeFilter.descend? (Filter.checkIn levels inside)
          (CompositeFilter.bodyOf op (encodedFilters filters)) [] =
            (.ok (some ⟨op, rereadFilters filters, none⟩), []) := by
        have composite := CompositeFilter.descend_encoded op parts
        simp only [CompositeFilter.descend?, CompositeFilter.bodyOf, Value.content_ofTexts]
        simp only [Field.op, Field.filters, Spelling.same, composite, Except.map]
      rw [Filter.encoded, checkIn_ofTexts]
      simp [Field.propertyFilter, Field.compositeFilter, Spelling.defaulted, Spelling.descend,
        Spelling.given?, List.lookup_cons, part, reread, ofCheckedParts, ofParts, bind,
        Except.bind]

/-! ## Messages of all classes -/

/-- A compiled query that fits into a body is read back. -/
theorem QueryMessage.check_encoded {m : QueryMessage Value}
    (h : ∀ f ∈ m.filter, f.Holds IsJsonMapping) (enough : m.levels ≤ Nesting.limit) :
    check m.encoded = .ok m.reread := by
  obtain ⟨kinds, projections, filter, orders, distinctOn, startCursor, limit, offset⟩ := m
  have kindsRead := checkSequence_map KindExpression.check_body kinds
  have projectionsRead := checkSequence_map Projection.check_body projections
  have ordersRead := checkSequence_map PropertyOrder.check_body orders
  have distinctOnRead := checkSequence_map PropertyReference.check_body distinctOn
  have filterRead : ∀ f ∈ filter, checkOptional (fun v => (Filter.checkInMessage v []).1)
      f.encoded = .ok (some f.reread) := by
    intro f hf
    have present : f.encoded.isNone = false := by cases f <;> rfl
    have within : f.levels ≤ Nesting.limit - 1 := by
      simp only [levels, Option.mem_def.mp hf] at enough
      omega
    simp [checkOptional, present, Filter.checkInMessage,
      Filter.checkIn_encoded (h f hf) [] within, Except.map]
  have cursorRead : ∀ b, checkOptional checkBytes (.text (Text.Base64.encode b)) =
      .ok (some (cursorText b)) := by
    intro b
    simp [checkOptional, Value.isNone, checkBytes_encode, Except.map]
  have limitRead : ∀ n, checkOptional checkInteger (.int n) = .ok (some n) := fun _ => rfl
  have offsetRead : checkInteger (.int offset) = .ok offset := rfl
  -- Which entries there are depends on the three optional fields; each case is a look-up of names.
  cases filter <;> cases startCursor <;> cases limit <;>
    simp [check, encoded, bodyOf, optionalField, ofEntries, Field.kinds, Field.projections,
      Field.filter, Field.orders, Field.distinctOn, Field.startCursor, Field.limit, Field.offset,
      Spelling.same, Spelling.defaulted, List.lookup_cons, kindsRead, projectionsRead, filterRead,
      ordersRead, distinctOnRead, cursorRead, limitRead, offsetRead, reread]

/-- A request whose query fits into a body is read back. -/
theorem RequestMessage.check_encoded {m : RequestMessage Value}
    (h : ∀ f ∈ m.query.filter, f.Holds IsJsonMapping) (enough : m.query.levels ≤ Nesting.limit) :
    check (.ofTexts [(Field.partitionId.wire, m.partitionId.body),
      (Field.query.wire, m.query.encoded)]) = .ok ⟨m.partitionId, m.query.reread⟩ := by
  simp [check, ofEntries, Field.partitionId, Field.query, Spelling.same, Spelling.required,
    List.lookup_cons, PartitionId.check_body, QueryMessage.check_encoded h enough]

/-- `Message.check` on the encoded form of a message of any class that fits into a body. -/
theorem Message.check_encoded {m : Message Value} (h : m.Holds IsJsonMapping)
    (enough : m.levels ≤ Nesting.limit) : Message.check m.cls m.encoded = .ok m.reread := by
  cases m with
  | bare => rfl
  | kindExpression m => exact congrArg (Except.map _) m.check_body
  | propertyReference m => exact congrArg (Except.map _) m.check_body
  | projection m => exact congrArg (Except.map _) m.check_body
  | propertyOrder m => exact congrArg (Except.map _) m.check_body
  | propertyFilter m => exact congrArg (Except.map _) (PropertyFilter.check_encoded h)
  | compositeFilter m =>
      have parts : ∀ f ∈ m.filters, Filter.checkInMessage f.encoded [] = (.ok f.reread, []) := by
        intro f hf
        have within := levels_le_levelsFilters hf
        simp only [levels] at enough
        exact Filter.checkIn_encoded (h f hf) [] (by omega)
      have read : CompositeFilter.check (CompositeFilter.bodyOf m.op (encodedFilters m.filters)) =
          .ok ⟨m.op, rereadFilters m.filters, none⟩ :=
        congrArg Prod.fst (CompositeFilter.descend_encoded m.op parts)
      exact congrArg (Except.map _) read
  | filter f =>
      have read : Filter.check f.encoded = .ok f.reread :=
        congrArg Prod.fst (Filter.checkIn_encoded h [] enough)
      exact congrArg (Except.map _) read
  | query m => exact congrArg (Except.map _) (QueryMessage.check_encoded h enough)
  | partitionId m => exact congrArg (Except.map _) m.check_body
  | request m => exact congrArg (Except.map _) (RequestMessage.check_encoded h enough)

theorem isJson_nestedList (n : Nat) : (nestedList n).IsJson [] := by
  induction n with
  | zero => exact .list (by simp)
  | succ n ih => exact .list (by simpa using ih)

end EntityQuery
