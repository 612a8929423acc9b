import EntityQuery.Key
import EntityQuery.Proofs.FirstFault

/-!
# Well-formed paths

A key is made of a path whose elements are looked at one after another, and in an element the kind
before the identifier. The first element that is not in order is what the path is refused for.

* `Key.ElementFault` is what may be wrong with an element, and `Key.failsBy_checkElements` says that
  a path fails by the first of its elements that has a fault.
* `Key.flatten` gives kinds and identifiers in turn, the form in which `Key.of` takes them.
* `Key.WellFormed` are the parts of a key by their positions, `Key.PartsFault` is why other parts
  are refused, and `Key.of_wellFormed` says that this is all.
-/

namespace EntityQuery

namespace Key

/-! ## Elements -/

/-- What identifies an entity of a kind, or leaves it open: an integer, a text or nothing. A truth
value is no integer. -/
def IsId (v : Value) : Prop :=
  (∃ i, v.content = .int i) ∨ v.asText?.isSome = true ∨ v.isNone = true

theorem isId_iff {v : Value} : isId v = true ↔ IsId v := by
  induction v using Value.content.induct with
  | case1 _ look ih => exact ih
  | case2 v notObject =>
      cases v with
      | object _ look => exact absurd rfl (notObject _ look)
      | _ => simp [isId, IsId, Value.content, Value.asText?, Value.isNone]

/-- Why the element of a path at a position is refused, in the order in which `checkElements` looks:
the pair, the kind, the identifier, and the length of the path only if that is missing. -/
inductive ElementFault (path : Value) (index : Nat) (element : Value) : Failure → Prop where
  | noPair {e : Failure} (failed : element.unpack = .error e) : ElementFault path index element e
  | emptyKind {kind id : Value} (pair : element.unpack = .ok (kind, id))
      (empty : kind.truthy = false) :
      ElementFault path index element (.rejected (.emptyKind index kind))
  | badId {kind id : Value} (pair : element.unpack = .ok (kind, id)) (named : kind.truthy = true)
      (bad : ¬ IsId id) : ElementFault path index element (.rejected (.badId id))
  | missingId {kind id : Value} {n : Nat} (pair : element.unpack = .ok (kind, id))
      (named : kind.truthy = true) (missing : id.isNone = true) (length : path.length = .ok n)
      (notLast : index + 1 ≠ n) : ElementFault path index element (.rejected (.missingId path))
  | lengthless {kind id : Value} {e : Failure} (pair : element.unpack = .ok (kind, id))
      (named : kind.truthy = true) (missing : id.isNone = true) (failed : path.length = .error e) :
      ElementFault path index element e

/-- Checks the element of a path at a position. -/
def checkElement (path : Value) (index : Nat) (element : Value) : Except Failure Unit := do
  let (kind, id) ← element.unpack
  if kind.truthy = false then .error (.rejected (.emptyKind index kind))
  else if isId id = false then .error (.rejected (.badId id))
  else if id.isNone = true then checkMissing path index else .ok ()

theorem checkMissing_eq_error_iff {path : Value} {index : Nat} {e : Failure} :
    checkMissing path index = .error e ↔ path.length = .error e ∨
      ∃ n, path.length = .ok n ∧ index + 1 ≠ n ∧ e = .rejected (.missingId path) := by
  rw [checkMissing, bind_eq_error_iff]
  refine or_congr_right (exists_congr fun n => and_congr_right fun _ => ?_)
  by_cases notLast : index + 1 ≠ n
  · rw [if_pos notLast, and_iff_right notLast]
    show Except.error _ = Except.error e ↔ _
    rw [Except.error.injEq]
    exact eq_comm
  · rw [if_neg notLast]
    exact iff_of_false (fun failed => by cases failed) fun h => notLast h.1

theorem checkElement_of_pair {element kind id : Value} (pair : element.unpack = .ok (kind, id))
    (path : Value) (index : Nat) :
    checkElement path index element =
      if kind.truthy = false then .error (.rejected (.emptyKind index kind))
      else if isId id = false then .error (.rejected (.badId id))
      else if id.isNone = true then checkMissing path index else .ok () := by
  rw [checkElement, pair]
  rfl

theorem checkElement_eq_error_iff {path element : Value} {index : Nat} {e : Failure} :
    checkElement path index element = .error e ↔ ElementFault path index element e := by
  constructor
  · intro failed
    cases pair : element.unpack with
    | error e' =>
        rw [checkElement, pair] at failed
        cases failed
        exact .noPair pair
    | ok items =>
        obtain ⟨kind, id⟩ := items
        rw [checkElement_of_pair pair] at failed
        split at failed
        · next empty =>
            cases failed
            exact .emptyKind pair empty
        · next named =>
            rw [Bool.not_eq_false] at named
            split at failed
            · next bad =>
                cases failed
                exact .badId pair named (by rw [← isId_iff, bad]; exact Bool.false_ne_true)
            · split at failed
              · next missing =>
                  obtain failed | ⟨n, length, notLast, rfl⟩ := checkMissing_eq_error_iff.mp failed
                  · exact .lengthless pair named missing failed
                  · exact .missingId pair named missing length notLast
              · cases failed
  · intro fault
    -- What is missing passes for an identifier, so its position is all that can be wrong with it.
    have missingFits : ∀ {id : Value}, id.isNone = true → isId id = true :=
      fun missing => isId_iff.mpr (.inr (.inr missing))
    cases fault with
    | noPair failed =>
        rw [checkElement, failed]
        rfl
    | emptyKind pair empty => rw [checkElement_of_pair pair, if_pos empty]
    | badId pair named bad =>
        rw [← isId_iff, Bool.not_eq_true] at bad
        rw [checkElement_of_pair pair, named, bad]
        rfl
    | missingId pair named missing length notLast =>
        rw [checkElement_of_pair pair, named, missingFits missing, if_pos missing]
        exact checkMissing_eq_error_iff.mpr (.inr ⟨_, length, notLast, rfl⟩)
    | lengthless pair named missing failed =>
        rw [checkElement_of_pair pair, named, missingFits missing, if_pos missing]
        exact checkMissing_eq_error_iff.mpr (.inl failed)

/-- The elements of a path are checked one after another. -/
theorem checkElements_cons (path : Value) (index : Nat) (element : Value) (rest : List Value) :
    checkElements path index (element :: rest) = (do
      checkElement path index element
      checkElements path (index + 1) rest) := by
  unfold checkElement
  rw [checkElements]
  cases element.unpack with
  | error e => rfl
  | ok pair =>
      obtain ⟨kind, id⟩ := pair
      cases named : kind.truthy <;> cases fits : isId id <;> cases missing : id.isNone <;>
        simp [named, fits, missing, bind, Except.bind, throw, throwThe, MonadExceptOf.throw]

/-- `checkElements` fails by the first of its elements that is refused. -/
theorem failsBy_checkElements (path : Value) (elements : List Value) (index : Nat) :
    FailsBy (fun element => ElementFault path element.2 element.1) (elements.zipIdx index)
      (checkElements path index elements) := by
  induction elements generalizing index with
  | nil => exact .ok ()
  | cons element rest ih =>
      rw [checkElements_cons]
      exact .cons (fun _ => checkElement_eq_error_iff) fun _ _ => ih (index + 1)

/-! ## Kinds and identifiers in turn -/

/-- Kinds and identifiers in turn, as `Key.of` is given them. It is the inverse of `pairs?`, and
easier to reason about. -/
def flatten (elements : List (Value × Value)) : List Value :=
  elements.flatMap fun e => [e.1, e.2]

/-- The path of some elements. -/
def pathOf (elements : List (Value × Value)) : Value :=
  .tuple (elements.map fun e => .tuple [e.1, e.2])

@[simp] theorem flatten_nil : flatten [] = [] := rfl

@[simp] theorem flatten_cons (e : Value × Value) (rest : List (Value × Value)) :
    flatten (e :: rest) = e.1 :: e.2 :: flatten rest := rfl

theorem length_flatten (elements : List (Value × Value)) :
    (flatten elements).length = 2 * elements.length := by
  induction elements with
  | nil => rfl
  | cons e rest ih =>
      rw [flatten_cons, List.length_cons, List.length_cons, ih, List.length_cons]
      omega

theorem getElem?_flatten_even (elements : List (Value × Value)) (i : Nat) :
    (flatten elements)[2 * i]? = elements[i]?.map Prod.fst := by
  induction elements generalizing i with
  | nil => rfl
  | cons e rest ih =>
      cases i with
      | zero => rfl
      | succ i => exact ih i

theorem getElem?_flatten_odd (elements : List (Value × Value)) (i : Nat) :
    (flatten elements)[2 * i + 1]? = elements[i]?.map Prod.snd := by
  induction elements generalizing i with
  | nil => rfl
  | cons e rest ih =>
      cases i with
      | zero => rfl
      | succ i => exact ih i

/-- `pairs?` takes parts in pairs if their number is even. -/
theorem pairs?_flatten (elements : List (Value × Value)) :
    pairs? (flatten elements) = some (elements.map fun e => .tuple [e.1, e.2]) := by
  induction elements with
  | nil => rfl
  | cons e rest ih =>
      rw [flatten_cons, pairs?, ih]
      rfl

theorem exists_flatten_eq {parts : List Value} (even : parts.length % 2 = 0) :
    ∃ elements, flatten elements = parts := by
  induction parts using pairs?.induct with
  | case1 => exact ⟨[], rfl⟩
  | case2 v => cases even
  | case3 kind id rest ih =>
      obtain ⟨elements, rfl⟩ := ih (by simp only [List.length_cons] at even; omega)
      exact ⟨(kind, id) :: elements, rfl⟩

theorem pairs?_of_odd {parts : List Value} (odd : parts.length % 2 = 1) : pairs? parts = none := by
  induction parts using pairs?.induct with
  | case1 => cases odd
  | case2 v => rfl
  | case3 kind id rest ih =>
      rw [pairs?, ih (by simp only [List.length_cons] at odd; omega)]
      rfl

/-- `Key.of` on parts that pair up: the checks of `Key.make`, on a path that is known. -/
theorem of_flatten {elements : List (Value × Value)} (nonempty : elements ≠ []) (ns : Value) :
    of (flatten elements) ns = (fun _ => ⟨pathOf elements, ns⟩) <$>
      checkElements (pathOf elements) 0 (elements.map fun e => .tuple [e.1, e.2]) := by
  obtain ⟨e, rest, rfl⟩ := List.exists_cons_of_ne_nil nonempty
  rw [of, pairs?_flatten]
  rfl

/-- Parts that are none or do not pair up make no key. -/
theorem of_unpaired {parts : List Value} (unpaired : parts = [] ∨ parts.length % 2 = 1)
    (ns : Value) : of parts ns = .error (.rejected (.unpairedParts parts)) := by
  obtain rfl | odd := unpaired
  · rfl
  · rw [of, pairs?_of_odd odd]

/-! ## Parts of a key -/

/-- The parts of a key, by their positions: as many identifiers as kinds, all kinds with a name, and
no identifier missing but the very last part. -/
structure WellFormed (parts : List Value) : Prop where
  even : parts.length % 2 = 0
  nonempty : 0 < parts.length
  kinds : ∀ i v, parts[i]? = some v → i % 2 = 0 → v.truthy = true
  ids : ∀ i v, parts[i]? = some v → i % 2 = 1 → IsId v
  missing : ∀ i v, parts[i]? = some v → i % 2 = 1 → v.isNone = true → i + 1 = parts.length

/-- An element of a path that is in order wherever it stands. -/
structure Inner (element : Value × Value) : Prop where
  named : element.1.truthy = true
  id : IsId element.2
  present : element.2.isNone = false

/-- Why parts are refused, along with the value that is shown for it: all of them if they do not
pair up, and else something about the first element that is not in order. Elements before it are
`Inner`. -/
inductive PartsFault (parts : List Value) : Rejection → Value → Prop where
  | unpaired (unpaired : parts = [] ∨ parts.length % 2 = 1) :
      PartsFault parts (.unpairedParts parts) (.tuple parts)
  | emptyKind {before after : List (Value × Value)} {kind id : Value}
      (elements : parts = flatten (before ++ (kind, id) :: after))
      (fine : ∀ e ∈ before, Inner e) (empty : kind.truthy = false) :
      PartsFault parts (.emptyKind before.length kind) kind
  | badId {before after : List (Value × Value)} {kind id : Value}
      (elements : parts = flatten (before ++ (kind, id) :: after))
      (fine : ∀ e ∈ before, Inner e) (named : kind.truthy = true) (bad : ¬ IsId id) :
      PartsFault parts (.badId id) id
  | missingId {before after : List (Value × Value)} {kind id : Value}
      (elements : parts = flatten (before ++ (kind, id) :: after))
      (fine : ∀ e ∈ before, Inner e) (named : kind.truthy = true) (missing : id.isNone = true)
      (notLast : after ≠ []) :
      PartsFault parts (.missingId (pathOf (before ++ (kind, id) :: after)))
        (pathOf (before ++ (kind, id) :: after))

theorem length_pathOf (elements : List (Value × Value)) :
    (pathOf elements).length = .ok elements.length := by
  show Except.ok (elements.map _).length = _
  rw [List.length_map]

/-- `ElementFault` for a pair of kind and identifier, by the number of the elements: no failure to
unpack or to find a length is left. -/
theorem elementFault_pathOf_iff {elements : List (Value × Value)} {index : Nat} {kind id : Value}
    {e : Failure} :
    ElementFault (pathOf elements) index (.tuple [kind, id]) e ↔
      kind.truthy = false ∧ e = .rejected (.emptyKind index kind) ∨
      kind.truthy = true ∧ ¬ IsId id ∧ e = .rejected (.badId id) ∨
      kind.truthy = true ∧ id.isNone = true ∧ index + 1 ≠ elements.length ∧
        e = .rejected (.missingId (pathOf elements)) := by
  have pair : (Value.tuple [kind, id]).unpack = .ok (kind, id) := rfl
  have length := length_pathOf elements
  constructor
  · intro fault
    cases fault with
    | noPair failed => cases failed
    | emptyKind pair' empty =>
        cases pair'
        exact .inl ⟨empty, rfl⟩
    | badId pair' named bad =>
        cases pair'
        exact .inr (.inl ⟨named, bad, rfl⟩)
    | missingId pair' named missing length' notLast =>
        cases pair'
        rw [length] at length'
        cases length'
        exact .inr (.inr ⟨named, missing, notLast, rfl⟩)
    | lengthless _ _ _ failed =>
        rw [length] at failed
        cases failed
  · intro fault
    obtain ⟨empty, rfl⟩ | ⟨named, bad, rfl⟩ | ⟨named, missing, notLast, rfl⟩ := fault
    · exact .emptyKind pair empty
    · exact .badId pair named bad
    · exact .missingId pair named missing length notLast

/-- An element that is in order has no fault in a path of known length. -/
theorem forall_not_elementFault_iff_of_length {path element : Value} {index n : Nat}
    (length : path.length = .ok n) :
    (∀ e, ¬ ElementFault path index element e) ↔ ∃ kind id, element.unpack = .ok (kind, id) ∧
      kind.truthy = true ∧ IsId id ∧ (id.isNone = true → index + 1 = n) := by
  constructor
  · intro fair
    cases pair : element.unpack with
    | error e => exact absurd (.noPair pair) (fair e)
    | ok items =>
        obtain ⟨kind, id⟩ := items
        have named : kind.truthy = true := by
          rw [← Bool.not_eq_false]
          exact fun empty => fair _ (.emptyKind pair empty)
        refine ⟨kind, id, rfl, named, ?_, fun missing => ?_⟩
        · by_contra bad
          exact fair _ (.badId pair named bad)
        · by_contra notLast
          exact fair _ (.missingId pair named missing length notLast)
  · intro ⟨kind, id, pair, named, fits, last⟩ e fault
    cases fault with
    | noPair failed =>
        rw [pair] at failed
        cases failed
    | emptyKind pair' empty =>
        cases pair.symm.trans pair'
        rw [named] at empty
        cases empty
    | badId pair' _ bad =>
        cases pair.symm.trans pair'
        exact bad fits
    | missingId pair' _ missing length' notLast =>
        cases pair.symm.trans pair'
        cases length.symm.trans length'
        exact notLast (last missing)
    | lengthless _ _ _ failed =>
        rw [length] at failed
        cases failed

theorem forall_not_elementFault_iff {elements : List (Value × Value)} {index : Nat}
    {kind id : Value} :
    (∀ e, ¬ ElementFault (pathOf elements) index (.tuple [kind, id]) e) ↔
      kind.truthy = true ∧ IsId id ∧ (id.isNone = true → index + 1 = elements.length) := by
  rw [forall_not_elementFault_iff_of_length (length_pathOf elements)]
  constructor
  · intro ⟨_, _, pair, fair⟩
    cases pair
    exact fair
  · exact fun fair => ⟨_, _, rfl, fair⟩

/-- Parts that pair up fail by the first pair that is not in order. -/
theorem failsBy_of_flatten {elements : List (Value × Value)} (nonempty : elements ≠ [])
    (ns : Value) :
    FailsBy (fun p => ElementFault (pathOf elements) p.2 (.tuple [p.1.1, p.1.2]))
      elements.zipIdx (of (flatten elements) ns) := by
  rw [of_flatten nonempty]
  refine FailsBy.map (fun e => ?_) _
  rw [failsBy_checkElements, List.zipIdx_map, firstFault_map]
  rfl

/-- `WellFormed` speaks of positions in the parts, and this of elements. -/
theorem wellFormed_flatten_iff {elements : List (Value × Value)} (nonempty : elements ≠ []) :
    WellFormed (flatten elements) ↔ ∀ i kind id, elements[i]? = some (kind, id) →
      kind.truthy = true ∧ IsId id ∧ (id.isNone = true → i + 1 = elements.length) := by
  have length := length_flatten elements
  constructor
  · intro h i kind id element
    have kindAt := getElem?_flatten_even elements i
    have idAt := getElem?_flatten_odd elements i
    rw [element] at kindAt idAt
    refine ⟨h.kinds _ _ kindAt (by omega), h.ids _ _ idAt (by omega), fun missing => ?_⟩
    have last := h.missing _ _ idAt (by omega) missing
    omega
  · intro each
    -- A part at a position belongs to the element at half of it.
    have kindAt : ∀ i v, (flatten elements)[i]? = some v → i % 2 = 0 →
        ∃ id, elements[i / 2]? = some (v, id) := by
      intro i v part even
      rw [show i = 2 * (i / 2) by omega, getElem?_flatten_even] at part
      obtain ⟨⟨kind, id⟩, element, rfl⟩ := Option.map_eq_some_iff.mp part
      exact ⟨id, element⟩
    have idAt : ∀ i v, (flatten elements)[i]? = some v → i % 2 = 1 →
        ∃ kind, elements[i / 2]? = some (kind, v) := by
      intro i v part odd
      rw [show i = 2 * (i / 2) + 1 by omega, getElem?_flatten_odd] at part
      obtain ⟨⟨kind, id⟩, element, rfl⟩ := Option.map_eq_some_iff.mp part
      exact ⟨kind, element⟩
    refine ⟨by omega, ?_, ?_, ?_, ?_⟩
    · have := List.length_pos_iff.mpr nonempty
      omega
    · intro i v part even
      obtain ⟨id, element⟩ := kindAt i v part even
      exact (each _ _ _ element).1
    · intro i v part odd
      obtain ⟨kind, element⟩ := idAt i v part odd
      exact (each _ _ _ element).2.1
    · intro i v part odd missing
      obtain ⟨kind, element⟩ := idAt i v part odd
      have last := (each _ _ _ element).2.2 missing
      omega

theorem flatten_injective : Function.Injective flatten := by
  intro elements elements' same
  induction elements generalizing elements' with
  | nil =>
      cases elements' with
      | nil => rfl
      | cons e' rest' => cases same
  | cons e rest ih =>
      cases elements' with
      | nil => cases same
      | cons e' rest' =>
          simp only [flatten_cons, List.cons.injEq] at same
          rw [Prod.ext same.1 same.2.1, ih same.2.2]

theorem not_unpaired_flatten {elements : List (Value × Value)} (nonempty : elements ≠ []) :
    ¬ (flatten elements = [] ∨ (flatten elements).length % 2 = 1) := by
  intro unpaired
  have length := length_flatten elements
  obtain none | odd := unpaired
  · exact nonempty (flatten_injective none)
  · omega

/-- Before the last element, to be in order is to be `Inner`, as the position does not count
there. -/
theorem forall_inner_iff {elements before : List (Value × Value)}
    (shorter : before.length < elements.length) :
    (∀ p ∈ before.zipIdx, ∀ e,
        ¬ ElementFault (pathOf elements) p.2 (.tuple [p.1.1, p.1.2]) e) ↔
      ∀ e ∈ before, Inner e := by
  constructor
  · intro fair e among
    obtain ⟨i, at_i⟩ := List.mem_iff_getElem?.mp among
    have early := (List.getElem?_eq_some_iff.mp at_i).1
    obtain ⟨named, id, last⟩ :=
      forall_not_elementFault_iff.mp (fair (e, i) (List.mk_mem_zipIdx_iff_getElem?.mpr at_i))
    refine ⟨named, id, ?_⟩
    rw [← Bool.not_eq_true]
    intro missing
    have := last missing
    omega
  · intro fine ⟨⟨kind, id⟩, i⟩ among
    have element := List.mem_of_getElem? (List.mk_mem_zipIdx_iff_getElem?.mp among)
    obtain ⟨named, fits, present⟩ := fine _ element
    refine forall_not_elementFault_iff.mpr ⟨named, fits, fun missing => ?_⟩
    rw [present] at missing
    cases missing

/-- The first element that is not in order, as `FirstFault` has it, is the one of `PartsFault`. -/
theorem firstFault_elements_iff {elements : List (Value × Value)} (nonempty : elements ≠ [])
    {e : Failure} :
    FirstFault (fun p => ElementFault (pathOf elements) p.2 (.tuple [p.1.1, p.1.2]))
        elements.zipIdx e ↔
      ∃ r v, e = .rejected r ∧ PartsFault (flatten elements) r v := by
  rw [firstFault_zipIdx]
  constructor
  · intro ⟨before, ⟨kind, id⟩, after, parts, fair, fault⟩
    have shorter : before.length < elements.length := by simp [parts]
    have fine := (forall_inner_iff shorter).mp fair
    rw [elementFault_pathOf_iff, Nat.zero_add] at fault
    subst parts
    obtain ⟨empty, rfl⟩ | ⟨named, bad, rfl⟩ | ⟨named, missing, notLast, rfl⟩ := fault
    · exact ⟨_, _, rfl, .emptyKind rfl fine empty⟩
    · exact ⟨_, _, rfl, .badId rfl fine named bad⟩
    · refine ⟨_, _, rfl, .missingId rfl fine named missing fun last => notLast ?_⟩
      rw [last, List.length_append, List.length_singleton]
  · intro rejected
    obtain ⟨r, v, rfl, fault⟩ := rejected
    have shorter : ∀ {before after : List (Value × Value)} {p : Value × Value},
        elements = before ++ p :: after → before.length < elements.length :=
      fun parts => by simp [parts]
    cases fault with
    | unpaired unpaired => exact absurd unpaired (not_unpaired_flatten nonempty)
    | emptyKind same fine empty =>
        have parts := flatten_injective same
        exact ⟨_, _, _, parts, (forall_inner_iff (shorter parts)).mpr fine,
          elementFault_pathOf_iff.mpr (.inl ⟨empty, by rw [Nat.zero_add]⟩)⟩
    | badId same fine named bad =>
        have parts := flatten_injective same
        exact ⟨_, _, _, parts, (forall_inner_iff (shorter parts)).mpr fine,
          elementFault_pathOf_iff.mpr (.inr (.inl ⟨named, bad, rfl⟩))⟩
    | @missingId before after kind id same fine named missing notLast =>
        have parts := flatten_injective same
        have early : 0 + before.length + 1 ≠ elements.length := by
          have := List.length_pos_iff.mpr notLast
          rw [parts, List.length_append, List.length_cons]
          omega
        exact ⟨_, _, _, parts, (forall_inner_iff (shorter parts)).mpr fine,
          elementFault_pathOf_iff.mpr (.inr (.inr ⟨named, missing, early, by rw [parts]⟩))⟩

/-- `Key.of` makes a key of parts just if they are `WellFormed`. The key has them in its path, in
order, and the namespace. Otherwise they are refused for their `PartsFault`: all of them, if they do
not pair up, and else the first element that is not in order, for its kind, for its identifier, or
for the lack of one before the end. -/
theorem of_wellFormed (parts : List Value) (ns : Value) :
    ((∃ k, of parts ns = .ok k) ↔ WellFormed parts) ∧
    (∀ k, of parts ns = .ok k → k.keyNamespace = ns ∧
      ∃ elements, k.path = pathOf elements ∧ flatten elements = parts) ∧
    (∀ e, of parts ns = .error e ↔ ∃ r v, e = .rejected r ∧ PartsFault parts r v) ∧
    ∀ r v, PartsFault parts r v → r.field = "path" ∧ r.value = v := by
  have shown : ∀ r v, PartsFault parts r v → r.field = "path" ∧ r.value = v := by
    intro r v fault
    cases fault <;> exact ⟨rfl, rfl⟩
  by_cases unpaired : parts = [] ∨ parts.length % 2 = 1
  -- Parts that do not pair up are refused before any of them is looked at.
  · have refused := of_unpaired unpaired ns
    refine ⟨?_, ?_, ?_, shown⟩
    · refine iff_of_false ?_ fun h => ?_
      · intro ⟨k, made⟩
        rw [refused] at made
        cases made
      · have even := h.even
        have nonempty := h.nonempty
        obtain rfl | odd := unpaired
        · cases nonempty
        · omega
    · intro k made
      rw [refused] at made
      cases made
    · intro e
      rw [refused, Except.error.injEq]
      constructor
      · intro isUnpaired
        exact ⟨_, _, isUnpaired.symm, .unpaired unpaired⟩
      · intro ⟨r, v, rejected, fault⟩
        rw [rejected]
        cases fault with
        | unpaired _ => rfl
        | emptyKind elements _ _ | badId elements _ _ _ | missingId elements _ _ _ _ =>
            rw [elements] at unpaired
            exact absurd unpaired (not_unpaired_flatten (by simp))
  · obtain ⟨nonempty, even⟩ := not_or.mp unpaired
    obtain ⟨elements, rfl⟩ := exists_flatten_eq (show parts.length % 2 = 0 by omega)
    have elementsNonempty : elements ≠ [] := by
      intro none
      rw [none] at nonempty
      exact nonempty rfl
    -- From here on there are elements, and the first of them that is not in order decides.
    have fails := failsBy_of_flatten elementsNonempty ns
    refine ⟨?_, ?_, fun e => (fails e).trans (firstFault_elements_iff elementsNonempty), shown⟩
    · rw [fails.exists_eq_ok_iff, wellFormed_flatten_iff elementsNonempty]
      constructor
      · intro fair i kind id element
        exact forall_not_elementFault_iff.mp
          (fair ((kind, id), i) (List.mk_mem_zipIdx_iff_getElem?.mpr element))
      · intro each ⟨⟨kind, id⟩, i⟩ among
        exact forall_not_elementFault_iff.mpr
          (each i kind id (List.mk_mem_zipIdx_iff_getElem?.mp among))
    · intro k made
      rw [of_flatten elementsNonempty] at made
      obtain ⟨_, _, rfl⟩ := map_eq_ok_iff.mp made
      exact ⟨rfl, elements, rfl, rfl⟩

/-- The last part may be missing, and a truth value is no identifier. What is wrong with an element
is found before anything that is wrong with a later one. -/
theorem of_wellFormed_refused :
    let pinned : Value := .text "n"
    let open_ : List Value := [.text "Team", .text "spurs", .text "Player", .none]
    let bad : List Value := [.text "Team", .bool true, .text "", .none, .text "Player", .int 7]
    let early : List Value := [.text "Team", .int 1, .text "Squad", .none, .text "", .bool false]
    (WellFormed open_ ∧ ¬ WellFormed bad ∧ ¬ WellFormed early) ∧
    (∃ k, of open_ pinned = .ok k ∧ k.keyNamespace = pinned) ∧
    of bad pinned = .error (.rejected (.badId (.bool true))) ∧
    of early pinned = .error (.rejected (.missingId (pathOf
      [(.text "Team", .int 1), (.text "Squad", .none), (.text "", .bool false)]))) := by
  intro pinned open_ bad early
  obtain ⟨openMade, openKept, -, -⟩ := of_wellFormed open_ pinned
  obtain ⟨badMade, -, badRefused, -⟩ := of_wellFormed bad pinned
  obtain ⟨earlyMade, -, earlyRefused, -⟩ := of_wellFormed early pinned
  have made : ∃ k, of open_ pinned = .ok k := ⟨_, rfl⟩
  have truthValue : ¬ IsId (.bool true) := by
    rw [← isId_iff]
    exact Bool.false_ne_true
  have badFault : PartsFault bad (.badId (.bool true)) (.bool true) :=
    .badId (show bad = flatten ([] ++ (.text "Team", .bool true) ::
      [(.text "", .none), (.text "Player", .int 7)]) from rfl) (by simp) rfl truthValue
  have fine : ∀ e ∈ [(Value.text "Team", Value.int 1)], Inner e :=
    List.forall_mem_singleton.mpr ⟨rfl, .inl ⟨1, rfl⟩, rfl⟩
  have earlyFault := PartsFault.missingId (show early = flatten ([(.text "Team", .int 1)] ++
    (.text "Squad", .none) :: [(.text "", .bool false)]) from rfl) fine rfl rfl (by simp)
  have badError := (badRefused _).mpr ⟨_, _, rfl, badFault⟩
  have earlyError := (earlyRefused _).mpr ⟨_, _, rfl, earlyFault⟩
  refine ⟨⟨openMade.mp made, ?_, ?_⟩, ?_, badError, earlyError⟩
  · intro wellFormed
    obtain ⟨k, made⟩ := badMade.mpr wellFormed
    rw [badError] at made
    cases made
  · intro wellFormed
    obtain ⟨k, made⟩ := earlyMade.mpr wellFormed
    rw [earlyError] at made
    cases made
  · obtain ⟨k, made⟩ := made
    exact ⟨k, made, (openKept k made).1⟩

end Key

end EntityQuery
