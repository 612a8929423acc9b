import EntityQuery.Proofs.FirstFault
import EntityQuery.Proofs.Mirror

/-!
# What is wrong with a comparison

A comparison is compiled in stages. Its property has to spell a name; then its operand is encoded,
by itself if it can do that and else as a mapping; and then operator and encoded operand are
checked together, so that both are complained about at once. The first stage that fails is the
failure of the comparison.

* `Value.ConversionFault` is the failure of an operand that is taken for a mapping and is none:
  `Value.toEntries_eq_error_iff`.
* `PropertyFilter.problems` are the complaints of the last stage:
  `PropertyFilter.make_eq_error_iff`.
* `ComparisonFault` has all stages, and `compileComparison_eq_error_iff` says that nothing else can
  go wrong.
-/

namespace EntityQuery

/-! ## Operands -/

/-- Why an item at a position is no entry of a mapping. -/
inductive EntryFault (index : Nat) (item : Value) : Failure → Prop where
  | notSequence (single : item.items? = none) : EntryFault index item (.entryNotSequence index)
  | length {items : List Value} (given : item.items? = some items) (noPair : items.length ≠ 2) :
      EntryFault index item (.entryLength index items.length)
  | key {k v : Value} {e : Failure} (given : item.items? = some [k, v])
      (unhashable : k.checkHashable = .error e) : EntryFault index item e

/-- An item at a position, read as an entry. `Entries.ofItems` does this in its loop. -/
def Value.entryAt (item : Value) (index : Nat) : Except Failure (Value × Value) :=
  match item.items? with
  | some [k, v] => (fun _ => (k, v)) <$> k.checkHashable
  | some items => .error (.entryLength index items.length)
  | Option.none => .error (.entryNotSequence index)

theorem Value.entryAt_eq_error_iff {item : Value} {index : Nat} {e : Failure} :
    item.entryAt index = .error e ↔ EntryFault index item e := by
  constructor
  · intro failed
    unfold entryAt at failed
    split at failed
    · next k v given => exact .key given (map_eq_error_iff.mp failed)
    · next items noPair given =>
        cases failed
        refine .length given fun two => ?_
        obtain ⟨k, v, rfl⟩ := List.length_eq_two.mp two
        exact noPair k v rfl
    · next single =>
        cases failed
        exact .notSequence single
  · intro fault
    unfold entryAt
    cases fault with
    | notSequence single => rw [single]
    | length given noPair =>
        rw [given]
        split
        · next same => cases same; exact absurd rfl noPair
        · next same => cases same; rfl
        · next same => cases same
    | key given unhashable =>
        rw [given]
        exact map_eq_error_iff.mpr unhashable

theorem Entries.ofItems_cons (index : Nat) (entries : List (Value × Value)) (item : Value)
    (rest : List Value) :
    ofItems index entries (item :: rest) = (do
      let entry ← item.entryAt index
      ofItems (index + 1) (set entry.1 entry.2 entries) rest) := by
  rw [ofItems, Value.entryAt]
  match item.items? with
  | some [k, v] =>
      dsimp only
      cases k.checkHashable <;> rfl
  | none | some [] | some [_] | some (_ :: _ :: _ :: _) => rfl

/-- `Entries.ofItems` fails by the first item that is no entry. Later entries replace earlier ones,
but that is no failure. -/
theorem Entries.failsBy_ofItems (items : List Value) (index : Nat)
    (entries : List (Value × Value)) :
    FailsBy (fun item => EntryFault item.2 item.1) (items.zipIdx index)
      (ofItems index entries items) := by
  induction items generalizing index entries with
  | nil => exact .ok entries
  | cons item rest ih =>
      rw [ofItems_cons]
      exact .cons (fun _ => Value.entryAt_eq_error_iff) fun entry _ => ih (index + 1) _

/-- Why an operand that is taken for a mapping is none: nothing of the sort, or not made of entries.
These are the failures of `toEntries`. -/
inductive Value.ConversionFault (operand : Value) : Failure → Prop where
  | notIterable (single : operand.items? = Option.none) :
      ConversionFault operand (.notIterable operand.typeName)
  | entry {items : List Value} {e : Failure}
      (noMapping : ∀ entries, operand.content ≠ .mapping entries)
      (given : operand.items? = some items)
      (first : FirstFault (fun item => EntryFault item.2 item.1) items.zipIdx e) :
      ConversionFault operand e

theorem Value.toEntries_eq_error_iff {operand : Value} {e : Failure} :
    operand.toEntries = .error e ↔ operand.ConversionFault e := by
  constructor
  · intro failed
    unfold toEntries at failed
    split at failed
    · cases failed
    · next noMapping =>
        unfold items at failed
        split at failed
        · next given =>
            exact .entry noMapping given ((Entries.failsBy_ofItems _ 0 [] e).mp failed)
        · next single =>
            cases failed
            exact .notIterable single
  · intro fault
    cases fault with
    | notIterable single =>
        unfold toEntries
        split
        · next seen => simp [items?, seen] at single
        · rw [items, single]
          rfl
    | entry noMapping given first =>
        unfold toEntries
        split
        · next seen => exact absurd seen (noMapping _)
        · rw [items, given]
          exact (Entries.failsBy_ofItems _ 0 [] e).mpr first

/-- What does not encode itself is seen as something that does not. -/
theorem Value.encode_of_not_isScoped {operand : Value} (h : operand.isScoped = false) (n : Value) :
    operand.encode n = .mapping <$> operand.toEntries := by
  induction operand using Value.content.induct with
  | case1 _ look ih => exact ih h
  | case2 v notObject =>
      cases v with
      | object _ look => exact absurd rfl (notObject _ look)
      | _ => first | rfl | cases h

/-- Why an operand is not resolved for a namespace: one that encodes itself fails to, and any other
is no mapping. -/
inductive ResolutionFault (n operand : Value) : Failure → Prop where
  | encoding {e : Failure} (isScoped : operand.isScoped = true)
      (failed : operand.encode n = .error e) : ResolutionFault n operand e
  | conversion {e : Failure} (notScoped : operand.isScoped = false)
      (fault : operand.ConversionFault e) : ResolutionFault n operand e

theorem Value.encode_eq_error_iff {operand n : Value} {e : Failure} :
    operand.encode n = .error e ↔ ResolutionFault n operand e := by
  have plain : operand.isScoped = false →
      (operand.encode n = .error e ↔ operand.ConversionFault e) := fun notScoped => by
    rw [encode_of_not_isScoped notScoped, map_eq_error_iff, toEntries_eq_error_iff]
  constructor
  · intro failed
    by_cases isScoped : operand.isScoped = true
    · exact .encoding isScoped failed
    · rw [Bool.not_eq_true] at isScoped
      exact .conversion isScoped ((plain isScoped).mp failed)
  · intro fault
    cases fault with
    | encoding _ failed => exact failed
    | conversion notScoped fault => exact (plain notScoped).mpr fault

/-! ## Operators and encoded operands -/

/-- The complaints about the keys of a mapping that spell no text. -/
def keyProblems (entries : List (Value × Value)) : List Problem :=
  entries.flatMap fun e =>
    if e.1.spelling?.isSome then [] else [⟨[.ofKey e.1, .key "[key]"], e.1.textComplaint⟩]

/-- The complaints about a value that should be a mapping from texts. -/
def Value.mappingProblems (v : Value) : List Problem :=
  match v.content with
  | .mapping entries => keyProblems entries
  | _ => [⟨[], .mappingExpected⟩]

theorem keyProblems_cons (e : Value × Value) (rest : List (Value × Value)) :
    keyProblems (e :: rest) =
      (if e.1.spelling?.isSome then [] else [⟨[.ofKey e.1, .key "[key]"], e.1.textComplaint⟩]) ++
        keyProblems rest := rfl

/-- `checkEntries` looks at all keys, and finds `keyProblems`. -/
theorem checkEntries_found (before : List (String × Value)) (entries : List (Value × Value)) :
    (checkEntries before entries).Ends ∧
      (checkEntries before entries).found = keyProblems entries := by
  induction entries generalizing before with
  | nil => exact ⟨.ok _, rfl⟩
  | cons e rest ih =>
      obtain ⟨k, v⟩ := e
      rw [keyProblems_cons, checkEntries, checkText_eq]
      cases spelling : k.spelling? with
      | some s => exact ih (setText s v before)
      | none =>
          obtain ⟨ends, found⟩ := ih before
          have complaint : (Checked.under (.ofKey k) (Checked.under (.key "[key]")
              (.error (.problems [⟨[], k.textComplaint⟩]))) :
                Checked (List (String × Value) → List (String × Value))).Ends :=
            .problems _ []
          exact ⟨complaint.and ends,
            (Checked.found_and complaint ends).trans (congrArg (_ ++ ·) found)⟩

theorem checkMapping_found (v : Value) :
    (checkMapping v).Ends ∧ (checkMapping v).found = v.mappingProblems := by
  unfold checkMapping Value.mappingProblems
  cases v.content with
  | mapping entries => exact checkEntries_found [] entries
  | _ => exact ⟨.problems _ [], rfl⟩

/-- A member is read from its spelling, and complained about if there is none. -/
theorem checkMember_of_described {α : Type} {enumeration : Enumeration}
    {ofSpelling? : String → Option α} {v : Value}
    (described : v.spelling?.bind ofSpelling? = none → v.lookUpFailure? = none) :
    checkMember enumeration ofSpelling? v =
      .orComplain (.memberExpected enumeration) (v.spelling?.bind ofSpelling?) := by
  unfold checkMember
  cases read : v.spelling?.bind ofSpelling? with
  | some a => rfl
  | none =>
      rw [described read]
      rfl

/-- A value that spells no member is described for the complaint, and if it has no description that
is the failure, not a problem among others. -/
theorem checkMember_of_undescribed {α : Type} {enumeration : Enumeration}
    {ofSpelling? : String → Option α} {v : Value} {e : Failure}
    (notMember : v.spelling?.bind ofSpelling? = none) (failed : v.lookUpFailure? = some e) :
    checkMember enumeration ofSpelling? v = .error (.failed e) := by
  rw [checkMember, notMember, failed]

/-- The complaints about an operator and an encoded operand, in the order in which
`PropertyFilter.make` has them. -/
def PropertyFilter.problems (op value : Value) : List Problem :=
  fieldProblem "op" (.memberExpected .propertyOperator) op.propertyOperator?.isSome ++
    value.mappingProblems.map (Problem.under (.key "value"))

/-- A property filter that is complained about is complained about as a whole. -/
theorem PropertyFilter.make_eq_error_iff {reference : PropertyReference} {op value : Value}
    (described : op.propertyOperator? = none → op.lookUpFailure? = none) {e : Failure} :
    make reference op value = .error e ↔
      problems op value ≠ [] ∧ e = .invalid .propertyFilter (problems op value) := by
  obtain ⟨mappingEnds, mappingFound⟩ := checkMapping_found value
  have operatorEnds := Checked.ends_orComplain (.key "op") (.memberExpected .propertyOperator)
    op.propertyOperator?
  have upToOperator := (Checked.Ends.ok fun o (fields : List (String × Value)) =>
    PropertyFilter.mk reference o fields none).and operatorEnds
  have valueEnds := mappingEnds.under (.key "value")
  have operator : checkPropertyOperator op = .orComplain _ op.propertyOperator? :=
    checkMember_of_described described
  rw [make_eq, operator, (upToOperator.and valueEnds).orInvalid_eq_error_iff,
    Checked.found_and upToOperator valueEnds, Checked.found_and (.ok _) operatorEnds,
    Checked.found_orComplain, Checked.found_under, mappingFound]
  rfl

theorem PropertyFilter.make_of_undescribed (reference : PropertyReference) {op : Value}
    (value : Value) {e : Failure} (notOperator : op.propertyOperator? = none)
    (failed : op.lookUpFailure? = some e) : make reference op value = .error e := by
  rw [make_eq, checkPropertyOperator, checkMember_of_undescribed notOperator failed]
  rfl

/-! ## Comparisons -/

/-- Why a comparison does not compile for a namespace. The stages come one after another: the
property, the operand, and then operator and encoded operand together. An operator that is none
is described for the complaint about it, and if it has no description, `lookUpFailure?` is the
failure. -/
inductive ComparisonFault (n property op operand : Value) : Failure → Prop where
  | property (unnamed : property.spelling? = none) :
      ComparisonFault n property op operand (nameFault .propertyReference property)
  | operand {name : String} {e : Failure} (named : property.spelling? = some name)
      (fault : ResolutionFault n operand e) : ComparisonFault n property op operand e
  | undescribed {name : String} {value : Value} {e : Failure}
      (named : property.spelling? = some name) (encoded : operand.encode n = .ok value)
      (notOperator : op.propertyOperator? = none) (failed : op.lookUpFailure? = some e) :
      ComparisonFault n property op operand e
  | fields {name : String} {value : Value} (named : property.spelling? = some name)
      (encoded : operand.encode n = .ok value)
      (described : op.propertyOperator? = none → op.lookUpFailure? = none)
      (problems : PropertyFilter.problems op value ≠ []) :
      ComparisonFault n property op operand
        (.invalid .propertyFilter (PropertyFilter.problems op value))

/-- A property without a name is complained about, and nothing else can be wrong with it. -/
theorem PropertyReference.make_eq_error_iff {v : Value} {e : Failure} :
    make v = .error e ↔ v.spelling? = none ∧ e = nameFault .propertyReference v := by
  rw [make_eq, checkText_eq]
  cases v.spelling? with
  | none => simp [Checked.orComplain, Checked.complain, Checked.under, Problem.under,
      Checked.orInvalid, Except.map, nameFault, eq_comm]
  | some s => simp [Checked.orComplain, Checked.orInvalid, Except.map]

/-- `compileComparison` fails in its first stage that does. -/
theorem compileComparison_eq_error_iff {property op operand n : Value} {e : Failure} :
    compileComparison property op operand n = .error e ↔
      ComparisonFault n property op operand e := by
  simp only [compileComparison, bind_eq_error_iff, PropertyReference.make_eq_ok_iff,
    PropertyReference.make_eq_error_iff, Value.encode_eq_error_iff]
  constructor
  · intro failed
    obtain ⟨unnamed, rfl⟩ | ⟨reference, named, failed⟩ := failed
    · exact .property unnamed
    obtain fault | ⟨value, encoded, failed⟩ := failed
    · exact .operand named fault
    obtain failed | ⟨_, _, made⟩ := failed
    -- Without a description of the operator there is no complaint about it, nor one about the
    -- value.
    · by_cases described : op.propertyOperator? = none → op.lookUpFailure? = none
      · obtain ⟨problems, rfl⟩ := (PropertyFilter.make_eq_error_iff described).mp failed
        exact .fields named encoded described problems
      · obtain ⟨notOperator, undescribed⟩ := Classical.not_imp.mp described
        cases shown : op.lookUpFailure? with
        | none => exact absurd shown undescribed
        | some e' =>
            rw [PropertyFilter.make_of_undescribed _ _ notOperator shown] at failed
            cases failed
            exact .undescribed named encoded notOperator shown
    · cases made
  · intro fault
    cases fault with
    | property unnamed => exact .inl ⟨unnamed, rfl⟩
    | operand named fault => exact .inr ⟨⟨_⟩, named, .inl fault⟩
    | undescribed named encoded notOperator failed =>
        exact .inr ⟨⟨_⟩, named, .inr ⟨_, encoded, .inl
          (PropertyFilter.make_of_undescribed _ _ notOperator failed)⟩⟩
    | fields named encoded described problems =>
        exact .inr ⟨⟨_⟩, named, .inr ⟨_, encoded, .inl
          ((PropertyFilter.make_eq_error_iff described).mpr ⟨problems, rfl⟩)⟩⟩

end EntityQuery
