import EntityQuery.Proofs.Compilation
import EntityQuery.Proofs.Encoding

/-!
# What units are sent as

The body of a filter unit can be read off the unit and the namespace, without compiling anything.
Here is how, for trees of conditions whose arguments have the types that they are documented for.

* `IsTypedComparison` and `IsTypedOperator` are the types of the arguments; operands are mappings
  from texts to data, or keys of kinds with integers, texts or nothing.
* `Value.unitBody` is the body of a unit. A key goes with its own namespace if it has one, the
  empty one included, and else with that of the query.
* `Value.compile_typed` is the induction over trees: a unit compiles to a filter of data whose
  encoded form is the body of the unit.
-/

namespace EntityQuery

/-! ## Typed arguments -/

/-- A text, or nothing, that a body can hold: `IsNamespace`, and `IsData` on top, by which no place
on the way to the text is inside of itself. -/
def Value.IsScope (v : Value) : Prop :=
  v.isNone = true ∨ (v.asText?.isSome = true ∧ v.IsData [])

theorem Value.IsScope.isNamespace {v : Value} (h : v.IsScope) : v.IsNamespace := by
  rcases h with isNone | ⟨text, -⟩
  · exact .inl isNone
  · exact .inr text

/-- An element of a path: a kind with an integer of any size, a text or nothing. Whether the integer
can be written out is left to `Key.isEncodable`. -/
def Value.IsPathElement (v : Value) : Prop :=
  ∃ kind id, v.content = .tuple [kind, id] ∧ (kind.asText?.isSome = true ∧ kind.IsData []) ∧
    ((∃ n, id.content = .int n) ∨ id.IsScope)

/-- An operand as it is documented: a mapping from texts to data, or a key of typed elements in a
typed namespace. -/
inductive Value.IsTypedOperand (v : Value) : Prop where
  | mapping {entries : List (Value × Value)} (seen : v.content = .mapping entries)
      (keys : TextKeys entries) (values : ∀ e ∈ entries, e.2.IsData [])
  | key {path own : Value} {elements : List Value} (seen : v.content = .key path own)
      (goesThrough : path.content = .tuple elements) (each : ∀ e ∈ elements, e.IsPathElement)
      (isScope : own.IsScope)

/-- A comparison of a named property by an operator with an operand. -/
structure IsTypedComparison (property op operand : Value) : Prop where
  property : property.asText?.isSome = true
  op : ∃ o, op.content = .member (.property o)
  operand : operand.IsTypedOperand

/-- An operator that combines. -/
def IsTypedOperator (op : Value) : Prop := ∃ o, op.content = .member (.composite o)

/-! ## Bodies -/

/-- The body of something that has a name only. -/
def nameBody (name : String) : Value := .ofTexts [("name", .text name)]

/-- The body of an element of a path. `Decimal.write` is total, so this is defined for integers that
`writeInteger` refuses too; the theorems below only speak of it where it is sent. -/
def Value.pathElementBody (v : Value) : Value :=
  match v.content with
  | .tuple [kind, id] =>
      .ofTexts (("kind", .text kind.textOf) :: match id.content with
        | .int n => [("id", .text (Decimal.write n))]
        | .none => []
        | _ => [("name", .text id.textOf)])
  | _ => .none

/-- The body of a key in a namespace, if there is one. -/
def keyBody (elements : List Value) (scope : Option String) : Value :=
  .ofTexts [("keyValue", .ofTexts (("path", .list (elements.map Value.pathElementBody)) ::
    match scope with
    | some s => [("partitionId", .ofTexts [("namespaceId", .text s)])]
    | none => []))]

/-- The body of an operand for a namespace. -/
def Value.operandBody (scope : Option String) (v : Value) : Value :=
  match v.content with
  | .mapping entries => .ofTexts (encodedEntries entries)
  | .key path own => keyBody (path.items?.getD []) (own.asText?.or scope)
  | _ => .none

mutual

/-- The body of a unit for a namespace, read off the unit alone. Nothing here compiles or checks
anything, which is what makes it worth comparing with. -/
def Value.unitBody (scope : Option String) : Value → Value
  | .comparison _ _ property op operand =>
      .ofTexts [("propertyFilter", .ofTexts [("property", nameBody property.textOf),
        ("op", .text op.textOf), ("value", operand.operandBody scope)])]
  | .combination _ op parts =>
      .ofTexts [("compositeFilter", .ofTexts [("op", .text op.textOf),
        ("filters", .list (unitBodies scope parts))])]
  | .object _ look => (look ()).unitBody scope
  | _ => .none
termination_by structural v => v

/-- The bodies of units. -/
def unitBodies (scope : Option String) : List Value → List Value
  | [] => []
  | v :: rest => v.unitBody scope :: unitBodies scope rest
termination_by structural items => items

end

/-! ## Keys -/

theorem Value.IsPathElement.unpack {e : Value} (h : e.IsPathElement) :
    ∃ pair, e.unpack = .ok pair := by
  obtain ⟨kind, id, seen, -, -⟩ := h
  exact ⟨(kind, id), by simp only [Value.unpack, Value.items?, seen]⟩

/-- `Key.encodedElement` of a typed element is data, and its encoded form is `pathElementBody`, if
`Key.isEncodable` holds. -/
theorem Key.encodedElement_typed {e : Value} (h : e.IsPathElement)
    (encodable : Key.isEncodable e = true) :
    (Key.encodedElement e).IsData [] ∧ (Key.encodedElement e).encoded = e.pathElementBody := by
  obtain ⟨kind, id, seen, ⟨kindText, kindData⟩, isId⟩ := h
  have unpacked : e.unpack = .ok (kind, id) := by
    simp only [Value.unpack, Value.items?, seen]
  have kindEncoded := Value.encoded_of_isSome kindText
  simp only [Key.isEncodable, unpacked] at encodable
  simp only [Key.encodedElement, unpacked, Value.pathElementBody, seen]
  rcases isId with ⟨n, isInt⟩ | isNone | ⟨idText, idData⟩
  · simp only [Key.isWritable, isInt] at encodable
    have made : Key.encodeElement kind id =
        .ok (.ofTexts [("kind", kind), ("id", .text (Decimal.write n))]) := by
      simp only [Key.encodeElement, isInt, writeInteger_eq_ok encodable]
      rfl
    simp only [made, isInt, Except.toOption, Option.getD_some, Value.encoded_ofTexts,
      encodedMapping, List.map_cons, kindEncoded]
    have nodup : ["kind", "id"].Nodup := by decide
    exact ⟨Value.isData_ofTexts nodup (by simpa using ⟨kindData, .text _⟩), rfl⟩
  · have isNone := Value.content_of_isNone isNone
    simp only [Key.encodeElement, isNone, Except.toOption, Option.getD_some,
      Value.encoded_ofTexts, encodedMapping, List.map_cons, kindEncoded]
    exact ⟨Value.isData_ofTexts (by simp) (by simpa using kindData), rfl⟩
  · have idEncoded := Value.encoded_of_isSome idText
    have nodup : ["kind", "name"].Nodup := by decide
    -- A member is a text as well, but is seen as something else.
    rcases Value.content_of_isSome idText with ⟨s, isSeen⟩ | ⟨m, isSeen⟩
    all_goals
      simp only [Key.encodeElement, isSeen, Except.toOption, Option.getD_some,
        Value.encoded_ofTexts, encodedMapping, List.map_cons, kindEncoded, idEncoded]
      exact ⟨Value.isData_ofTexts nodup (by simpa using ⟨kindData, idData⟩), rfl⟩

/-- So are the elements of a path, one by one. -/
theorem Key.encodedElements_typed {elements : List Value}
    (each : ∀ e ∈ elements, e.IsPathElement) (encodable : elements.all Key.isEncodable = true) :
    (∀ v ∈ elements.map Key.encodedElement, v.IsData []) ∧
      encodedItems (elements.map Key.encodedElement) = elements.map Value.pathElementBody := by
  induction elements with
  | nil => exact ⟨by simp, rfl⟩
  | cons e rest ih =>
      simp only [List.forall_mem_cons] at each
      rw [List.all_cons, Bool.and_eq_true] at encodable
      obtain ⟨data, body⟩ := Key.encodedElement_typed each.1 encodable.1
      obtain ⟨others, bodies⟩ := ih each.2 encodable.2
      refine ⟨List.forall_mem_cons.mpr ⟨data, others⟩, ?_⟩
      rw [List.map_cons, encodedItems, body, bodies, List.map_cons]

/-- `Key.effective` is a namespace that a body can hold, and by its text the one of the key counts
before the one of the builder. -/
theorem Key.effective_isScope (path : Value) {own n : Value} (ownScope : own.IsScope)
    (isScope : n.IsScope) :
    (Key.effective ⟨path, own⟩ n).IsScope ∧
      (Key.effective ⟨path, own⟩ n).asText? = own.asText?.or n.asText? := by
  rcases ownScope with isNone | ⟨text, data⟩
  · rw [Value.asText?_of_isNone isNone, Option.none_or, effective, if_pos isNone]
    exact ⟨isScope, rfl⟩
  · rw [effective, if_neg (by simp [Value.isNone_of_isSome text]),
      Value.asText?_eq_some_textOf text]
    exact ⟨.inr ⟨text, data⟩, rfl⟩

/-- `Key.encode` of a typed key, element by element with `Key.encodedElements_typed`. -/
theorem Key.encode_typed {path own n : Value} {elements : List Value}
    (goesThrough : path.content = .tuple elements) (each : ∀ e ∈ elements, e.IsPathElement)
    (encodable : elements.all Key.isEncodable = true) (ownScope : own.IsScope)
    (isScope : n.IsScope) :
    ∃ key, Key.encode ⟨path, own⟩ n = .ok (.ofTexts [("keyValue", key)]) ∧ key.IsData [] ∧
      .ofTexts [("keyValue", key.encoded)] = keyBody elements (own.asText?.or n.asText?) := by
  obtain ⟨data, bodies⟩ := Key.encodedElements_typed each encodable
  have items : path.items = .ok elements := by
    simp only [Value.items, Value.items?, goesThrough]
  obtain ⟨effectiveScope, effectiveText⟩ := Key.effective_isScope path ownScope isScope
  have nodup : ["path", "partitionId"].Nodup := by decide
  -- Everything but the partition is the same for all namespaces; the partition is there if the
  -- key is in one.
  rw [← effectiveText, Key.encode_eq_ite items fun e he => (each e he).unpack, if_pos encodable]
  refine ⟨_, rfl, ?_, ?_⟩
  · rcases effectiveScope with isNone | ⟨text, textData⟩
    · rw [Key.encodePartition, if_pos isNone]
      exact Value.isData_ofTexts (by simp) (by simpa using Value.IsData.list data)
    · rw [Key.encodePartition, if_neg (by simp [Value.isNone_of_isSome text])]
      refine Value.isData_ofTexts nodup ?_
      simp only [List.forall_mem_cons, List.not_mem_nil, false_implies, implies_true, and_true]
      exact ⟨.list data, Value.isData_ofTexts (by simp) (by simpa using textData)⟩
  · rw [Value.encoded_ofTexts]
    unfold keyBody
    rcases effectiveScope with isNone | ⟨text, textData⟩
    · rw [Key.encodePartition, if_pos isNone, Value.asText?_of_isNone isNone]
      simp only [encodedMapping, List.map_cons, List.map_nil, Value.encoded, bodies]
    · rw [Key.encodePartition, if_neg (by simp [Value.isNone_of_isSome text]),
        Value.asText?_eq_some_textOf text]
      simp only [encodedMapping, List.map_cons, List.map_nil, Value.encoded_ofTexts,
        Value.encoded_of_isSome text, Value.encoded, bodies]

/-- Can an operand be written out? Mappings can, and keys if `Key.isEncodable` holds of all their
elements. -/
def Value.isWritableOperand (v : Value) : Bool :=
  match v.content with
  | .key path _ => (path.items?.getD []).all Key.isEncodable
  | _ => true

/-- `encode` of a typed operand that can be written out passes `checkMapping`, and what comes out is
sent as `operandBody`. -/
theorem Value.encode_typed {operand : Value} (h : operand.IsTypedOperand)
    (writable : operand.isWritableOperand = true) {n : Value} (isScope : n.IsScope) :
    ∃ value fields, operand.encode n = .ok value ∧ checkMapping value = .ok fields ∧
      IsDataMapping fields ∧ .ofTexts (encodedMapping fields) = operand.operandBody n.asText? := by
  cases h with
  | @mapping entries seen keys values =>
      refine ⟨.mapping entries, textFields entries, ?_, keys.checkMapping_eq rfl, ?_, ?_⟩
      · simp only [encode, seen]
        rfl
      · intro e he
        obtain ⟨f, hf, rfl⟩ := List.mem_map.mp he
        exact values f hf
      · simp only [operandBody, seen, encodedEntries_eq]
  | @key path own elements seen goesThrough each ownScope =>
      simp only [isWritableOperand, seen, items?, goesThrough, Option.getD_some] at writable
      obtain ⟨key, encoded, data, body⟩ :=
        Key.encode_typed goesThrough each writable ownScope isScope
      have isData : IsDataMapping [("keyValue", key)] := by simpa [IsDataMapping] using data
      refine ⟨.ofTexts [("keyValue", key)], [("keyValue", key)], ?_, rfl, isData, ?_⟩
      · simp only [encode, seen, encoded]
      · simp only [operandBody, seen, items?, goesThrough, Option.getD_some, ← body]
        rfl

/-- `encode` of any other typed operand fails with `tooManyDigits`: a type leaves nothing else that
could go wrong. -/
theorem Value.encode_unwritable {operand : Value} (h : operand.IsTypedOperand)
    (long : operand.isWritableOperand = false) (n : Value) :
    operand.encode n = .error .tooManyDigits := by
  cases h with
  | mapping seen => simp [isWritableOperand, seen] at long
  | @key path own elements seen goesThrough each =>
      simp only [isWritableOperand, seen, items?, goesThrough, Option.getD_some] at long
      have items : path.items = .ok elements := by
        simp only [Value.items, Value.items?, goesThrough]
      simp only [encode, seen]
      rw [Key.encode_eq_ite items fun e he => (each e he).unpack, long]
      rfl

/-! ## Units -/

mutual

/-- Can a unit be written out? All operands in it have to be such that they can. -/
def Value.isWritableUnit : Value → Bool
  | .comparison _ _ _ _ operand => operand.isWritableOperand
  | .combination _ _ parts => areWritableUnits parts
  | .object _ look => (look ()).isWritableUnit
  | _ => true
termination_by structural v => v

/-- Can all of some units be written out? -/
def areWritableUnits : List Value → Bool
  | [] => true
  | v :: rest => v.isWritableUnit && areWritableUnits rest
termination_by structural items => items

end

/-- A typed comparison that can be written out compiles to a filter whose body is that of the
comparison. -/
theorem compileComparison_typed {property op operand n : Value}
    (h : IsTypedComparison property op operand) (writable : operand.isWritableOperand = true)
    (isScope : n.IsScope) :
    ∃ f, compileComparison property op operand n = .ok f ∧ f.Holds IsDataMapping ∧
      ∀ mark isAncestor, f.encoded =
        (Value.comparison mark isAncestor property op operand).unitBody n.asText? := by
  obtain ⟨isText, ⟨o, isOperator⟩, isOperand⟩ := h
  obtain ⟨value, fields, encoded, read, data, body⟩ :=
    Value.encode_typed isOperand writable isScope
  have operator : checkPropertyOperator op = .ok o :=
    checkMember_of_spelling (Value.spelling?_of_member isOperator)
      (PropertyOperator.ofSpelling?_spelling o)
  have opText : op.textOf = o.spelling := Value.textOf_of_member isOperator
  refine ⟨.property ⟨⟨property.textOf⟩, o, fields, none⟩, ?_, .property data, ?_⟩
  · simp only [compileComparison, PropertyReference.make_of_isSome isText, encoded, bind,
      Except.bind, PropertyFilter.make_eq, operator, read]
    rfl
  · intro mark isAncestor
    rw [Value.unitBody, ← body, opText]
    rfl

/-- A typed comparison that cannot be written out does not compile. -/
theorem compileComparison_unwritable {property op operand : Value}
    (h : IsTypedComparison property op operand) (long : operand.isWritableOperand = false)
    (n : Value) : compileComparison property op operand n = .error .tooManyDigits := by
  simp only [compileComparison, bind, Except.bind, PropertyReference.make_of_isSome h.property,
    Value.encode_unwritable h.operand long n]

/-- A filter that a unit compiles to, that is data throughout, and that is sent as `unitBody`. -/
structure Filter.Renders (n unit : Value) (f : Filter Value) : Prop where
  compilable : unit.isCompilable = true
  compiled : (unit.compile n).result = .ok (.message (.filter f))
  data : f.Holds IsDataMapping
  body : f.encoded = unit.unitBody n.asText?

/-- `compileParts` and `compileUnits` on units with filters. They fail in different ways but succeed
alike, so one induction serves both. -/
theorem compileUnits_typed {n : Value} {units : List Value}
    (each : ∀ u ∈ units, ∃ f, Filter.Renders n u f) :
    ∃ fs, (compileParts units n).result = .ok (fs.map (Value.message ∘ .filter)) ∧
      (∀ index, (compileUnits units index n).result = .ok fs) ∧
      (∀ f ∈ fs, f.Holds IsDataMapping) ∧ encodedFilters fs = unitBodies n.asText? units := by
  induction units with
  | nil => exact ⟨[], rfl, fun _ => rfl, by simp, rfl⟩
  | cons u rest ih =>
      simp only [List.forall_mem_cons] at each
      obtain ⟨⟨f, first⟩, others⟩ := each
      obtain ⟨fs, parts, units, data, bodies⟩ := ih others
      refine ⟨f :: fs, ?_, ?_, List.forall_mem_cons.mpr ⟨first.data, data⟩, ?_⟩
      · rw [compileParts_cons_result, first.compiled, parts]
        rfl
      · intro index
        rw [compileUnits_cons_result first.compilable rest index first.compiled rfl,
          units (index + 1)]
        rfl
      · rw [encodedFilters, first.body, bodies, unitBodies]

/-- What `compile` does with a typed unit: a filter that `Renders` it, or `tooManyDigits` where
`isWritableUnit` fails. -/
structure Value.CompilesTyped (unit n : Value) : Prop where
  compilable : unit.isCompilable = true
  renders : unit.isWritableUnit = true → ∃ f, Filter.Renders n unit f
  fails : unit.isWritableUnit = false → (unit.compile n).result = .error .tooManyDigits

/-- Units that can be written out compile one by one. -/
theorem exists_renders_of_areWritableUnits {n : Value} {units : List Value}
    (each : ∀ u ∈ units, u.CompilesTyped n) (writable : areWritableUnits units = true) :
    ∀ u ∈ units, ∃ f, Filter.Renders n u f := by
  induction units with
  | nil => simp
  | cons u rest ih =>
      obtain ⟨first, others⟩ := List.forall_mem_cons.mp each
      rw [areWritableUnits, Bool.and_eq_true] at writable
      exact List.forall_mem_cons.mpr ⟨first.renders writable.1, ih others writable.2⟩

/-- The first unit that cannot be written out ends the compilation of all. The ones before it have
filters, by `each`. -/
theorem compileUnits_unwritable {n : Value} {units : List Value}
    (each : ∀ u ∈ units, u.CompilesTyped n) (long : areWritableUnits units = false) :
    (compileParts units n).result = .error .tooManyDigits ∧
      ∀ index, (compileUnits units index n).result = .error .tooManyDigits := by
  induction units with
  | nil => cases long
  | cons u rest ih =>
      obtain ⟨first, others⟩ := List.forall_mem_cons.mp each
      rw [areWritableUnits, Bool.and_eq_false_iff] at long
      cases writable : u.isWritableUnit with
      | false =>
          have failed := first.fails writable
          refine ⟨by rw [compileParts_cons_result, failed]; rfl, fun index => ?_⟩
          rw [compileUnits, if_pos first.compilable, Traced.bind_of_error failed]
      | true =>
          obtain ⟨f, renders⟩ := first.renders writable
          obtain ⟨parts, units⟩ := ih others (long.resolve_left (by simp [writable]))
          refine ⟨by rw [compileParts_cons_result, renders.compiled, parts]; rfl, fun index => ?_⟩
          rw [compileUnits_cons_result first.compilable rest index renders.compiled rfl,
            units (index + 1)]
          rfl

/-- By induction on the tree: every typed unit `CompilesTyped`. Comparisons are
`compileComparison_typed` and `compileComparison_unwritable`, combinations the two lemmas on lists
above. -/
theorem Value.compile_typed {unit n : Value}
    (h : unit.IsTree IsTypedComparison IsTypedOperator) (isScope : n.IsScope) :
    unit.CompilesTyped n := by
  induction h with
  | @comparison mark isAncestor property op operand fits =>
      refine ⟨rfl, fun writable => ?_, fun long => ?_⟩
      · obtain ⟨f, compiled, data, body⟩ := compileComparison_typed fits writable isScope
        refine ⟨f, rfl, ?_, data, body mark isAncestor⟩
        rw [compile_comparison_result, compiled]
        rfl
      · rw [compile_comparison_result, compileComparison_unwritable fits long]
        rfl
  | @combination mark op parts fits _ ih =>
      refine ⟨rfl, fun writable => ?_, fun long => ?_⟩
      · obtain ⟨o, isOperator⟩ := fits
        have operator : checkCompositeOperator op = .ok o :=
          checkMember_of_spelling (Value.spelling?_of_member isOperator)
            (CompositeOperator.ofSpelling?_spelling o)
        -- All parts have filters here, so the operator is all that is left to check.
        obtain ⟨fs, compiled, -, data, bodies⟩ :=
          compileUnits_typed (exists_renders_of_areWritableUnits ih writable)
        refine ⟨.composite o fs Option.none, rfl, ?_, .composite data, ?_⟩
        · rw [compile_combination_result, compiled]
          show (Value.message ∘ Message.filter) <$> compileCombination op _ = _
          rw [compileCombination_filters, operator]
          rfl
        · rw [unitBody, ← bodies, textOf_of_member isOperator]
          rfl
      · rw [compile_combination_result, (compileUnits_unwritable ih long).1]
        rfl
  | object _ ih =>
      refine ⟨ih.compilable, fun writable => ?_, ih.fails⟩
      obtain ⟨f, renders⟩ := ih.renders writable
      exact ⟨f, renders.compilable, renders.compiled, renders.data, renders.body⟩

end EntityQuery
