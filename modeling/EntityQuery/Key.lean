import EntityQuery.Value.Entries

/-!
# Keys

A key names an entity by its ancestors and itself: a path of elements, each a kind together
with an identifier, which is an integer, a text, or missing.

* A path is any value that can be gone through and whose items come in pairs; it is kept as
  it was given. `Key.make` refuses an empty path, an element without a kind, an identifier of
  another type, and a missing identifier anywhere but at the end, in this order within an
  element and in path order between elements.
* `Key.of` makes a key from kinds and identifiers in turn.
* A key may be pinned to a namespace. Encoding it for a namespace (`Key.encode`) uses the
  pinned one if there is one, the empty text included.
* An integer identifier is encoded as decimal text under a field of its own, so it is never
  confused with the same digits as a name. A key accepts integers of any size, but one with too
  many digits for `writeInteger` leaves the key without an encoding.
-/

namespace EntityQuery

/-- A key. -/
structure Key where
  /-- The path, as it was given. -/
  path : Value
  /-- The namespace that the key is pinned to, or nothing. -/
  keyNamespace : Value

namespace Key

/-- A key as a value. -/
def toValue (k : Key) : Value := .key k.path k.keyNamespace

/-- The key that a value is, where one of its attributes is asked for by name. -/
def ofValue (name : String) (v : Value) : Except Failure Key :=
  match v.content with
  | .key path keyNamespace => .ok ⟨path, keyNamespace⟩
  | _ => .error (.noAttribute v.typeName name)

@[simp] theorem ofValue_toValue (name : String) (k : Key) : ofValue name k.toValue = .ok k := rfl

/-- Can the value identify an entity of a kind, or be left out? -/
def isId (v : Value) : Bool :=
  match v.content with
  | .int _ | .text _ | .member _ | .none => true
  | _ => false

/-- Refuses a missing identifier at a position that is not the last one of a path. The length of the
path is only asked for then. -/
def checkMissing (path : Value) (index : Nat) : Except Failure Unit := do
  if index + 1 ≠ (← path.length) then throw (.rejected (.missingId path))

/-- Checks the elements of a path from the given position on, and fails by the first that is not in
order. -/
def checkElements (path : Value) (index : Nat) : List Value → Except Failure Unit
  | [] => .ok ()
  | element :: rest => do
      let (kind, id) ← element.unpack
      if !kind.truthy then throw (.rejected (.emptyKind index kind))
      -- The order of the checks decides which violation is named where there are several.
      if !isId id then throw (.rejected (.badId id))
      if id.isNone then checkMissing path index
      checkElements path (index + 1) rest

/-- Makes a key from a path. The path is kept as it is, so a list stays shared with the caller. -/
def make (path keyNamespace : Value) : Except Failure Key :=
  if path.truthy then do
    checkElements path 0 (← path.items)
    return ⟨path, keyNamespace⟩
  else .error (.rejected .emptyPath)

/-- Pairs up kinds and identifiers that are given in turn; fails if one is left over. -/
def pairs? : List Value → Option (List Value)
  | [] => some []
  | [_] => none
  | kind :: id :: rest => (pairs? rest).map (Value.tuple [kind, id] :: ·)

/-- Makes a key from kinds and identifiers in turn. -/
def of (parts : List Value) (keyNamespace : Value) : Except Failure Key :=
  match pairs? parts with
  | some (element :: rest) => make (.tuple (element :: rest)) keyNamespace
  | _ => .error (.rejected (.unpairedParts parts))

/-! ## Parts of a key -/

/-- The item of a value at a position, which counts from the end if it is negative. -/
def itemAt (v : Value) (position : Int) : Except Failure Value :=
  let pick (items : List Value) : Except Failure Value :=
    let i := if position < 0 then items.length + position else position
    if i < 0 then .error (.outOfRange v.typeName)
    else match items[i.toNat]? with
      | some item => .ok item
      | none => .error (.outOfRange v.typeName)
  match v.content with
  | .list items => pick items
  | .tuple items => pick items
  | .text _ | .member _ | .bytes _ => do pick (← v.items)
  -- A position is a key here, and a negative one is not counted from the end.
  | .mapping entries =>
      match entries.find? fun e => e.1.alike (.int position) with
      | some e => .ok e.2
      | none => .error (.noSuchKey (Decimal.write position))
  | _ => .error (.notSubscriptable v.typeName)

/-- The kind of the entity. -/
def kind (k : Key) : Except Failure Value := do itemAt (← itemAt k.path (-1)) 0

/-- The identifier of the entity. -/
def nameOrId (k : Key) : Except Failure Value := do itemAt (← itemAt k.path (-1)) 1

/-- A path without its last element. -/
def initPath (path : Value) : Except Failure Value :=
  match path.content with
  | .list items => .ok (.list items.dropLast)
  | .tuple items => .ok (.tuple items.dropLast)
  | .text s => .ok (.text (String.ofList s.toList.dropLast))
  | .member m => .ok (.text (String.ofList m.spelling.toList.dropLast))
  | .bytes b => .ok (.bytes b.dropLast)
  | .mapping _ => .error (.unhashable "slice")
  | _ => .error (.notSubscriptable path.typeName)

/-- The key of the nearest ancestor, if there is one. It is made by `make` again, with
`initPath`. -/
def parent (k : Key) : Except Failure (Option Key) := do
  if (← k.path.length) = 1 then return none
  else return some (← make (← initPath k.path) k.keyNamespace)

/-- The keys of all ancestors, from the nearest on; a path has no more of them than elements. -/
def ancestors (k : Key) : Except Failure (List Key) := do
  go (← k.path.length) k
where
  /-- The keys of at most a number of ancestors. -/
  go : Nat → Key → Except Failure (List Key)
    | 0, _ => .ok []
    | n + 1, k => do
        match ← k.parent with
        | none => return []
        | some parent => return parent :: (← go n parent)

/-! ## Encoding -/

/-- An encoded path element. An integer is written out by `writeInteger`, which can fail. -/
def encodeElement (kind id : Value) : Except Failure Value :=
  match id.content with
  | .int n => do return .ofTexts [("kind", kind), ("id", .text (← writeInteger n))]
  -- A truth value is taken for an integer, but is written out as a word.
  | .bool b => .ok (.ofTexts [("kind", kind), ("id", .text (Describe.bool b))])
  | .none => .ok (.ofTexts [("kind", kind)])
  | _ => .ok (.ofTexts [("kind", kind), ("name", id)])

/-- The encoded elements of a path. -/
def encodeElements : List Value → Except Failure (List Value)
  | [] => .ok []
  | element :: rest => do
      let (kind, id) ← element.unpack
      let encoded ← encodeElement kind id
      return encoded :: (← encodeElements rest)

/-- The namespace that a key is encoded with when it is used for a given one: its own, if it is
pinned, an empty one included. -/
def effective (k : Key) (given : Value) : Value :=
  if k.keyNamespace.isNone then given else k.keyNamespace

/-- The partition of an encoded key, left out where there is no namespace. -/
def encodePartition (effective : Value) : List (String × Value) :=
  if effective.isNone then []
  else [("partitionId", .ofTexts [("namespaceId", effective)])]

/-- A key encoded for a namespace. -/
def encode (k : Key) (given : Value) : Except Failure Value := do
  let elements ← k.path.items
  let path ← encodeElements elements
  return .ofTexts
    [("keyValue", .ofTexts (("path", .list path) :: encodePartition (k.effective given)))]

/-- Can an identifier be written out? Everything can but an integer with too many digits. -/
def isWritable (id : Value) : Bool :=
  match id.content with
  | .int n => Decimal.isWritable n
  | _ => true

/-- Can a path element be encoded? It has to be a pair whose identifier can be written out. -/
def isEncodable (element : Value) : Bool :=
  match element.unpack with
  | .ok (_, id) => isWritable id
  | .error _ => false

/-- The encoded form of a path element that has one. -/
def encodedElement (element : Value) : Value :=
  match element.unpack with
  | .ok (kind, id) => (encodeElement kind id).toOption.getD .none
  | .error _ => .none

/-- A pair is encoded, or its identifier has too many digits. -/
theorem encodeElement_eq_ite {element kind id : Value} (pair : element.unpack = .ok (kind, id)) :
    encodeElement kind id =
      if isEncodable element then .ok (encodedElement element) else .error .tooManyDigits := by
  simp only [isEncodable, encodedElement, pair, isWritable, encodeElement]
  cases id.content with
  | int n =>
    cases writable : Decimal.isWritable n with
    | true => simp only [writeInteger_eq_ok writable, writable, if_true]; rfl
    | false => simp only [writeInteger_eq_error writable, writable]; rfl
  | _ => rfl

/-- Pairs are encoded all or none. -/
theorem encodeElements_eq_ite {elements : List Value}
    (pairs : ∀ e ∈ elements, ∃ pair, e.unpack = .ok pair) :
    encodeElements elements =
      if elements.all isEncodable then .ok (elements.map encodedElement)
      else .error .tooManyDigits := by
  induction elements with
  | nil => rfl
  | cons e rest ih =>
    obtain ⟨⟨⟨kind, id⟩, pair⟩, others⟩ := List.forall_mem_cons.mp pairs
    rw [encodeElements, pair, List.all_cons, List.map_cons]
    show (encodeElement kind id >>= fun encoded => encodeElements rest >>= _) = _
    rw [encodeElement_eq_ite pair, ih others]
    cases isEncodable e <;> cases rest.all isEncodable <;> rfl

/-- So a key whose elements are pairs is encoded, or one of its identifiers has too many digits. -/
theorem encode_eq_ite {k : Key} {elements : List Value} (items : k.path.items = .ok elements)
    (pairs : ∀ e ∈ elements, ∃ pair, e.unpack = .ok pair) (given : Value) :
    k.encode given =
      if elements.all isEncodable then .ok (.ofTexts [("keyValue", .ofTexts
        (("path", .list (elements.map encodedElement)) :: encodePartition (k.effective given)))])
      else .error .tooManyDigits := by
  rw [encode, items]
  show (encodeElements elements >>= _) = _
  rw [encodeElements_eq_ite pairs]
  cases elements.all isEncodable <;> rfl

/-- A pinned key is encoded in the same way for every namespace. -/
theorem encode_of_pinned {k : Key} (h : k.keyNamespace.isNone = false) (given given' : Value) :
    k.encode given = k.encode given' := by
  simp [encode, effective, h]

end Key

end EntityQuery
