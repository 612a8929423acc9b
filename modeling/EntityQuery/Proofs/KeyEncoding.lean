import EntityQuery.Proofs.KeyPath
import EntityQuery.Proofs.Lossless

/-!
# What an encoded key says

An encoded key says what its path is, element by element, and which namespace it belongs to. An
integer identifier, the same digits as a name, an empty name and a missing identifier look
different, and so do no namespace and an empty one. So two keys are encoded alike exactly if their
paths are equal and the same namespace counts for both, and the encoded form can be read back.

`Key.encode` gives up on integers with more than `Decimal.digitLimit` digits, though nothing would
be lost there either: `Decimal.write` tells integers of any size apart. That is why
`Key.EncodesElement` is about the form that an element has, and `Key.Id.isWritable` about whether it
gets that far.

* `Key.Datum` is what a part of a key stands for, and `Value.Denotes` says so of a value, whether it
  has a place or not. `Value.Denotes.equal_iff` compares values by what they stand for.
* `Decimal.decode?_write` reads integers of any size back, and `Key.decode?` whole keys.
* `Key.encode_lossless` is about two keys and the namespaces that they are encoded for. Each of them
  is encoded exactly if `Key.Id.isWritable` holds of all identifiers in its path.
-/

namespace EntityQuery

/-! ## Integers -/

namespace Decimal

/-- The natural number that digits stand for. It reads what `Decimal.digits` writes, and is only
there to show that nothing is lost. -/
def decodeDigits? (cs : List Char) : Option Nat :=
  if cs ≠ [] ∧ cs.all Char.isDigit then some (Nat.ofDigitChars 10 cs 0) else none

/-- The integer that a text stands for: digits, behind a minus sign or not. -/
def decode? (s : String) : Option Int :=
  match s.toList with
  | '-' :: cs => (decodeDigits? cs).map fun n : Nat => -(n : Int)
  | cs => (decodeDigits? cs).map fun n : Nat => (n : Int)

theorem decodeDigits?_digits (n : Nat) : decodeDigits? (digits n) = some n := by
  have all : (digits n).all Char.isDigit = true :=
    List.all_eq_true.mpr fun c hc => Nat.isDigit_of_mem_toDigits (by decide) (by decide) hc
  rw [decodeDigits?, if_pos ⟨Nat.toDigits_ne_nil, all⟩, digits,
    Nat.ofDigitChars_toDigits (by decide) (by decide)]

theorem decode?_write (i : Int) : decode? (write i) = some i := by
  cases i with
  | ofNat n =>
      have signless : ∀ cs, digits n ≠ '-' :: cs := by
        intro cs signed
        have among : '-' ∈ digits n := by
          rw [signed]
          exact List.mem_cons_self
        cases Nat.isDigit_of_mem_toDigits (by decide) (by decide) among
      rw [write, decode?, String.toList_ofList]
      split
      · next cs signed => exact absurd signed (signless cs)
      · rw [decodeDigits?_digits]
        rfl
  | negSucc n =>
      rw [write, decode?, String.toList_ofList]
      show (decodeDigits? (digits (n + 1))).map _ = _
      rw [decodeDigits?_digits]
      rfl

/-- Integers have texts of their own, since `decode?` reads them back. -/
theorem write_injective : Function.Injective write := by
  intro i j same
  have read := decode?_write i
  rw [same, decode?_write] at read
  exact (Option.some.inj read).symm

end Decimal

namespace Key

/-- What an identifier stands for. -/
inductive Id where
  | number (n : Int)
  | name (s : String)
  /-- The identifier is left out. -/
  | missing
  deriving DecidableEq

/-- A text that may be left out. -/
def Id.ofText? : Option String → Id
  | some s => .name s
  | none => .missing

theorem Id.ofText?_injective : Function.Injective Id.ofText? := by
  intro s t same
  cases s <;> cases t <;> cases same <;> rfl

/-- What a part of a key stands for: a kind, an identifier or a namespace, an element of its path,
or its path. -/
inductive Datum where
  | id (i : Id)
  | element (e : String × Id)
  | path (elements : List (String × Id))

/-- How much is inside of a part of a key. A path is above its elements, and these above kinds and
identifiers. -/
def Datum.rank : Datum → Nat
  | id _ => 0
  | element _ => 1
  | path _ => 2

end Key

open Key (Id Datum)

/-! ## Parts of keys -/

section

variable {stored : Nat → Option Datum} {met : List (Nat × Nat)}

/-- A value that has no place, or a place that stores what the value stands for. So one place never
stands for two things. -/
def Value.Stands (stored : Nat → Option Datum) (d : Datum) : Value → Prop
  | .object number look => stored number = some d ∧ (look ()).place? = Option.none
  | _ => True

/-- A value is an identifier: an integer, a text or nothing. -/
def Value.Identifies (v : Value) : Id → Prop
  | .number n => v.content = .int n
  | .name s => v.asText? = some s
  | .missing => v.isNone = true

/-- A value stands for an identifier. -/
structure Value.DenotesId (stored : Nat → Option Datum) (v : Value) (i : Id) : Prop where
  stands : v.Stands stored (.id i)
  seen : v.Identifies i

/-- A value stands for an element of a path: a pair of kind and identifier. -/
structure Value.DenotesElement (stored : Nat → Option Datum) (v : Value) (e : String × Id) :
    Prop where
  stands : v.Stands stored (.element e)
  seen : ∃ kind id, v.content = .tuple [kind, id] ∧ kind.DenotesId stored (.name e.1) ∧
    id.DenotesId stored e.2

/-- A value stands for a path: a sequence of elements. -/
structure Value.DenotesPath (stored : Nat → Option Datum) (v : Value)
    (elements : List (String × Id)) : Prop where
  stands : v.Stands stored (.path elements)
  seen : ∃ items, v.content = .tuple items ∧
    List.Forall₂ (Value.DenotesElement stored) items elements

/-- Whatever is compared already has as much inside of it as `rank` says. Comparing goes down in
rank, so a pair of places that is met again cannot be one of these. -/
def Above (stored : Nat → Option Datum) (rank : Nat) (met : List (Nat × Nat)) : Prop :=
  ∀ p ∈ met, ∀ d, stored p.1 = some d → rank ≤ d.rank

theorem Above.mono {rank rank' : Nat} (above : Above stored rank met) (le : rank' ≤ rank) :
    Above stored rank' met :=
  fun p among d stores => Nat.le_trans le (above p among d stores)

/-- Values that stand for something are alike if what is seen of them is. That two places are being
compared already tells nothing by `Above`, because they are the places of something greater. -/
theorem Value.alikeIn_iff_of_content {v w : Value} {d d' : Datum} (hv : v.Stands stored d)
    (hw : w.Stands stored d') (above : Above stored (d.rank + 1) met)
    (contents : ∀ met', Above stored d.rank met' →
      (v.content.alikeIn met' w.content = true ↔ d = d')) :
    v.alikeIn met w = true ↔ d = d' := by
  simp only [alikeIn_content (place?_content v)] at contents
  have here := contents met (above.mono (Nat.le_succ _))
  by_cases placeless : v.place? = Option.none
  · rwa [content_of_placeless placeless] at here
  cases v with
  | object number look =>
      obtain ⟨stores, direct⟩ := hv
      rw [content_object, content_of_placeless direct] at contents here
      cases w with
      | object number' look' =>
          rw [alikeIn]
          by_cases same : number = number'
          · rw [same, hw.1, Option.some.injEq] at stores
            simp [same, stores]
          -- The places stand for something of this rank, so by `above` they are not being compared
          -- yet.
          · have fresh : (number, number') ∉ met := by
              intro among
              have := above _ among d stores
              omega
            have within : Above stored d.rank ((number, number') :: met) := by
              intro p among d₀ stores₀
              obtain rfl | among := List.mem_cons.mp among
              · rw [stores, Option.some.injEq] at stores₀
                rw [stores₀]
              · exact Nat.le_of_succ_le (above p among d₀ stores₀)
            simp [same, fresh, contents _ within]
      | _ => exact here
  | _ => exact absurd rfl placeless

/-- What a value identifies shows in what is seen of it. -/
theorem Value.Identifies.content {v : Value} {i : Id} (h : v.Identifies i) :
    (∃ n, i = .number n ∧ v.content = .int n) ∨
      (∃ s, i = .name s ∧ (v.content = .text s ∨ ∃ m, s = m.spelling ∧ v.content = .member m)) ∨
      i = .missing ∧ v.content = .none := by
  cases i with
  | number n => exact .inl ⟨n, rfl, h⟩
  | name s =>
      have isText : v.asText? = some s := h
      refine .inr (.inl ⟨s, rfl, ?_⟩)
      rw [← asText?_content] at isText
      obtain ⟨t, seen⟩ | ⟨m, seen⟩ := content_of_isSome (Option.isSome_of_eq_some h)
      · rw [seen] at isText
        cases isText
        exact .inl seen
      · rw [seen] at isText
        cases isText
        exact .inr ⟨m, rfl, seen⟩
  | missing => exact .inr (.inr ⟨rfl, content_of_isNone h⟩)

theorem Value.Identifies.alikeIn_iff {v w : Value} {i j : Id} (hv : v.Identifies i)
    (hw : w.Identifies j) (met : List (Nat × Nat)) :
    v.content.alikeIn met w.content = true ↔ i = j := by
  rw [@eq_comm Id i j]
  obtain ⟨n, rfl, seen⟩ | ⟨s, rfl, seen | ⟨m, rfl, seen⟩⟩ | ⟨rfl, seen⟩ := hv.content <;>
    obtain ⟨n', rfl, seen'⟩ | ⟨s', rfl, seen' | ⟨m', rfl, seen'⟩⟩ | ⟨rfl, seen'⟩ := hw.content <;>
    simp [seen, seen', alikeIn, isInt, asText?, isNone]
  exact eq_comm

theorem Value.DenotesId.alikeIn_iff {v w : Value} {i j : Id} (hv : v.DenotesId stored i)
    (hw : w.DenotesId stored j) (above : Above stored 1 met) :
    v.alikeIn met w = true ↔ i = j := by
  have same := alikeIn_iff_of_content hv.stands hw.stands above fun met' _ => by
    rw [hv.seen.alikeIn_iff hw.seen, Datum.id.injEq]
  rw [same, Datum.id.injEq]

/-- Elements are alike if they have the same kind and the same identifier. -/
theorem Value.DenotesElement.alikeIn_iff {v w : Value} {e e' : String × Id}
    (hv : v.DenotesElement stored e) (hw : w.DenotesElement stored e')
    (above : Above stored 2 met) : v.alikeIn met w = true ↔ e = e' := by
  obtain ⟨stands, kind, id, seen, kindOf, idOf⟩ := hv
  obtain ⟨stands', kind', id', seen', kindOf', idOf'⟩ := hw
  have same := alikeIn_iff_of_content stands stands' above fun met' above' => by
    rw [seen, seen']
    show alikeItems met' [kind, id] [kind', id'] = true ↔ _
    simp only [alikeItems, Bool.and_eq_true, kindOf.alikeIn_iff kindOf' above',
      idOf.alikeIn_iff idOf' above', Id.name.injEq, Datum.element.injEq, Prod.ext_iff,
      List.isEmpty_nil, and_true]
  rw [same, Datum.element.injEq]

/-- Sequences are alike if they stand for the same items one by one. -/
theorem alikeItems_iff {α : Type} {denotes : Value → α → Prop}
    (same : ∀ v w a b, denotes v a → denotes w b → (v.alikeIn met w = true ↔ a = b))
    {items items' : List Value} {as bs : List α} (each : List.Forall₂ denotes items as)
    (each' : List.Forall₂ denotes items' bs) : alikeItems met items items' = true ↔ as = bs := by
  induction each generalizing items' bs with
  | nil => cases each' <;> simp [alikeItems]
  | cons first _ ih =>
      cases each' with
      | nil => simp [alikeItems]
      | cons first' others' =>
          rw [alikeItems, Bool.and_eq_true, same _ _ _ _ first first', ih others', List.cons.injEq]

/-- Paths are alike if they have the same elements: three ranks, one lemma for each. -/
theorem Value.DenotesPath.alikeIn_iff {v w : Value} {elements elements' : List (String × Id)}
    (hv : v.DenotesPath stored elements) (hw : w.DenotesPath stored elements')
    (above : Above stored 3 met) : v.alikeIn met w = true ↔ elements = elements' := by
  obtain ⟨stands, items, seen, each⟩ := hv
  obtain ⟨stands', items', seen', each'⟩ := hw
  have same := alikeIn_iff_of_content stands stands' above fun met' above' => by
    rw [seen, seen', Datum.path.injEq]
    exact alikeItems_iff (fun _ _ _ _ hv hw => hv.alikeIn_iff hw above') each each'
  rw [same, Datum.path.injEq]

theorem Above.nil {rank : Nat} : Above stored rank [] := by
  intro p among
  cases among

/-- `equal` differs from `alike` on floating-point numbers only. -/
theorem Value.equal_eq_alike {v : Value} (noFloat : ∀ x, v.content ≠ .float x) (w : Value) :
    v.equal w = v.alike w := by
  unfold equal
  split
  · next x _ seen _ => exact absurd seen (noFloat x)
  · rfl

theorem Value.DenotesPath.equal_iff {v w : Value} {elements elements' : List (String × Id)}
    (hv : v.DenotesPath stored elements) (hw : w.DenotesPath stored elements') :
    v.equal w = true ↔ elements = elements' := by
  obtain ⟨_, items, seen, _⟩ := id hv
  rw [equal_eq_alike (fun x isFloat => by rw [seen] at isFloat; cases isFloat)]
  exact hv.alikeIn_iff hw Above.nil

theorem Value.DenotesId.equal_iff {v w : Value} {i j : Id} (hv : v.DenotesId stored i)
    (hw : w.DenotesId stored j) : v.equal w = true ↔ i = j := by
  rw [equal_eq_alike (fun x isFloat => ?_)]
  · exact hv.alikeIn_iff hw Above.nil
  · obtain ⟨_, _, seen⟩ | ⟨_, _, seen | ⟨_, _, seen⟩⟩ | ⟨_, seen⟩ := hv.seen.content <;>
      rw [seen] at isFloat <;> cases isFloat

end

namespace Key

variable {stored : Nat → Option Datum}

/-! ## Encoded keys -/

/-- The fields that tell about an identifier. -/
def Id.fields (id : Value) : Id → List (String × Value)
  | .number n => [("id", .text (Decimal.write n))]
  | .name _ => [("name", id)]
  | .missing => []

/-- Can an identifier be written out? An integer may have too many digits. -/
def Id.isWritable : Id → Bool
  | .number n => Decimal.isWritable n
  | .name _ | .missing => true

/-- An element is encoded as its kind and what tells about its identifier, if that can be written
out. -/
theorem encodeElement_eq (kind : Value) {id : Value} {i : Id} (h : id.Identifies i) :
    encodeElement kind id = if i.isWritable then .ok (.ofTexts (("kind", kind) :: i.fields id))
      else .error .tooManyDigits := by
  unfold encodeElement
  obtain ⟨n, rfl, seen⟩ | ⟨s, rfl, seen | ⟨m, rfl, seen⟩⟩ | ⟨rfl, seen⟩ := h.content <;> rw [seen]
  · cases writable : (Id.number n).isWritable with
    | true => simp only [writeInteger_eq_ok writable]; rfl
    | false => simp only [writeInteger_eq_error writable]; rfl
  all_goals rfl

/-- A value encodes an element of a path. -/
def EncodesElement (stored : Nat → Option Datum) (v : Value) (e : String × Id) : Prop :=
  ∃ kind id, v = .ofTexts (("kind", kind) :: e.2.fields id) ∧ kind.DenotesId stored (.name e.1) ∧
    id.DenotesId stored e.2

/-- Encoded elements are alike if they are of the same kind and the same identifier. -/
theorem EncodesElement.alikeIn_iff {v w : Value} {e e' : String × Id}
    (hv : EncodesElement stored v e) (hw : EncodesElement stored w e') :
    v.alikeIn [] w = true ↔ e = e' := by
  obtain ⟨kind, id, rfl, kindOf, idOf⟩ := hv
  obtain ⟨kind', id', rfl, kindOf', idOf'⟩ := hw
  obtain ⟨s, i⟩ := e
  obtain ⟨s', j⟩ := e'
  have kinds := kindOf.alikeIn_iff kindOf' Above.nil
  have ids := idOf.alikeIn_iff idOf' Above.nil
  rw [Id.name.injEq] at kinds
  rw [Value.alikeIn_ofTexts, alikeMapping_iff, List.forall_mem_cons]
  cases i <;> cases j <;>
    simp [Id.fields, List.lookup_cons, Value.alikeIn_text, Decimal.write_injective.eq_iff, kinds,
      ids]

/-- The elements of a path are encoded one by one. That is said of their form even where the
encoding ends early, so that what tells two paths apart does not depend on their identifiers. -/
theorem encodeElements_of_denotes {items : List Value} {elements : List (String × Id)}
    (each : List.Forall₂ (Value.DenotesElement stored) items elements) :
    ∃ encoded, encodeElements items =
        (if elements.all (·.2.isWritable) then .ok encoded else .error .tooManyDigits) ∧
      List.Forall₂ (EncodesElement stored) encoded elements := by
  induction each with
  | nil => exact ⟨[], rfl, .nil⟩
  | @cons item e _ rest first _ ih =>
      obtain ⟨_, kind, id, seen, kindOf, idOf⟩ := first
      obtain ⟨encoded, made, others⟩ := ih
      have pair : item.unpack = .ok (kind, id) := by
        rw [Value.unpack, Value.items?, seen]
      refine ⟨.ofTexts (("kind", kind) :: e.2.fields id) :: encoded, ?_,
        .cons ⟨kind, id, rfl, kindOf, idOf⟩ others⟩
      rw [encodeElements, pair, made, List.all_cons]
      show (encodeElement kind id >>= _) = _
      rw [encodeElement_eq kind idOf.seen]
      cases e.2.isWritable <;> cases rest.all (·.2.isWritable) <;> rfl

/-- The namespace that counts for a key is its own, or else the given one. -/
theorem effective_denotes {k : Key} {n : Value} {own given : Option String}
    (ownOf : k.keyNamespace.DenotesId stored (.ofText? own))
    (givenOf : n.DenotesId stored (.ofText? given)) :
    (k.effective n).DenotesId stored (.ofText? (own.or given)) := by
  cases own with
  | none =>
      have missing : k.keyNamespace.isNone = true := ownOf.seen
      rw [effective, if_pos missing]
      exact givenOf
  | some s =>
      have isText : k.keyNamespace.asText? = some s := ownOf.seen
      have present := Value.isNone_of_isSome (Option.isSome_of_eq_some isText)
      rw [effective, present]
      exact ownOf

/-- The partition is there if there is a namespace, the empty one included. -/
theorem encodePartition_of_denotes {v : Value} {ns : Option String}
    (h : v.DenotesId stored (.ofText? ns)) :
    encodePartition v =
      if ns.isSome then [("partitionId", .ofTexts [("namespaceId", v)])] else [] := by
  cases ns with
  | none =>
      have missing : v.isNone = true := h.seen
      rw [encodePartition, if_pos missing]
      rfl
  | some s =>
      have isText : v.asText? = some s := h.seen
      rw [encodePartition, Value.isNone_of_isSome (Option.isSome_of_eq_some isText)]
      rfl

/-- A value encodes a key with a path and a namespace that counts. -/
def Encodes (stored : Nat → Option Datum) (v : Value) (path : List (String × Id))
    (ns : Option String) : Prop :=
  ∃ elements n, v = .ofTexts [("keyValue",
      .ofTexts (("path", .list elements) :: encodePartition n))] ∧
    List.Forall₂ (EncodesElement stored) elements path ∧ n.DenotesId stored (.ofText? ns)

/-- A key can be encoded if all identifiers in its path can be written out. -/
theorem encode_of_denotes {k : Key} {n : Value} {path : List (String × Id)}
    {own given : Option String} (pathOf : k.path.DenotesPath stored path)
    (ownOf : k.keyNamespace.DenotesId stored (.ofText? own))
    (givenOf : n.DenotesId stored (.ofText? given)) :
    ∃ v, k.encode n = (if path.all (·.2.isWritable) then .ok v else .error .tooManyDigits) ∧
      Encodes stored v path (own.or given) := by
  obtain ⟨_, items, seen, each⟩ := pathOf
  obtain ⟨elements, made, encoded⟩ := encodeElements_of_denotes each
  have gone : k.path.items = .ok items := by
    rw [Value.items, Value.items?, seen]
  refine ⟨_, ?_, elements, k.effective n, rfl, encoded, effective_denotes ownOf givenOf⟩
  rw [encode, gone]
  show (encodeElements items >>= _) = _
  rw [made]
  cases path.all (·.2.isWritable) <;> rfl

/-- Encoded keys are equal if they have the same path and the same namespace. -/
theorem Encodes.equal_iff {v w : Value} {path path' : List (String × Id)} {ns ns' : Option String}
    (hv : Encodes stored v path ns) (hw : Encodes stored w path' ns') :
    v.equal w = true ↔ path = path' ∧ ns = ns' := by
  obtain ⟨elements, n, rfl, each, namespaceOf⟩ := hv
  obtain ⟨elements', n', rfl, each', namespaceOf'⟩ := hw
  have paths : (Value.list elements).alikeIn [] (.list elements') = true ↔ path = path' :=
    alikeItems_iff (fun _ _ _ _ hv hw => hv.alikeIn_iff hw) each each'
  have namespaces := namespaceOf.alikeIn_iff namespaceOf' Above.nil
  rw [Value.equal_eq_alike (fun _ isFloat => by cases isFloat), Value.alike, Value.alikeIn_ofTexts,
    alikeMapping_iff, encodePartition_of_denotes namespaceOf,
    encodePartition_of_denotes namespaceOf']
  cases ns <;> cases ns' <;>
    simp [List.lookup_cons, Value.alikeIn_ofTexts, alikeMapping_iff, paths, namespaces, Id.ofText?]

/-! ## Reading encoded keys -/

/-- The value of a field. -/
def field? (name : String) (v : Value) : Option Value :=
  match v.content with
  | .mapping entries => Entries.get? name entries
  | _ => none

@[simp] theorem field?_ofTexts (name : String) (fields : List (String × Value)) :
    field? name (.ofTexts fields) = fields.lookup name := by
  rw [field?, Value.content_ofTexts]
  exact Entries.get?_plainFields name fields

/-- The identifier of an encoded element: a decimal number, or else a name, or else nothing. -/
def decodeId? (v : Value) : Option Id :=
  match field? "id" v, field? "name" v with
  | some id, _ => (id.asText?.bind Decimal.decode?).map .number
  | none, some name => name.asText?.map .name
  | none, none => some .missing

/-- The kind and the identifier of an encoded element. -/
def decodeElement? (v : Value) : Option (String × Id) := do
  let kind ← field? "kind" v
  return (← kind.asText?, ← decodeId? v)

/-- The namespace of an encoded key, if there is one. -/
def decodePartition? (v : Value) : Option (Option String) :=
  match field? "partitionId" v with
  | some partition => do return some (← (← field? "namespaceId" partition).asText?)
  | none => some none

/-- The path and the namespace of an encoded key. -/
def decode? (v : Value) : Option (List (String × Id) × Option String) := do
  let key ← field? "keyValue" v
  let elements ← (← field? "path" key).items?
  return (← elements.mapM decodeElement?, ← decodePartition? key)

theorem EncodesElement.decode {v : Value} {e : String × Id} (h : EncodesElement stored v e) :
    decodeElement? v = some e := by
  obtain ⟨kind, id, rfl, kindOf, idOf⟩ := h
  obtain ⟨s, i⟩ := e
  have isKind : kind.asText? = some s := kindOf.seen
  have isId := idOf.seen
  cases i with
  | number n =>
      simp [decodeElement?, decodeId?, Id.fields, List.lookup_cons, isKind, Value.asText?,
        Decimal.decode?_write]
  | name t =>
      have isName : id.asText? = some t := isId
      simp [decodeElement?, decodeId?, Id.fields, List.lookup_cons, isKind, isName]
  | missing => simp [decodeElement?, decodeId?, Id.fields, List.lookup_cons, isKind]

theorem Encodes.decode {v : Value} {path : List (String × Id)} {ns : Option String}
    (h : Encodes stored v path ns) : decode? v = some (path, ns) := by
  obtain ⟨elements, n, rfl, each, namespaceOf⟩ := h
  have read : elements.mapM decodeElement? = some path := by
    induction each with
    | nil => rfl
    | cons first _ ih => rw [List.mapM_cons, first.decode, ih]; rfl
  have items : (Value.list elements).items? = some elements := rfl
  rw [encodePartition_of_denotes namespaceOf]
  cases ns with
  | none => simp [decode?, decodePartition?, List.lookup_cons, items, read]
  | some s =>
      have isText : n.asText? = some s := namespaceOf.seen
      simp [decode?, decodePartition?, List.lookup_cons, items, read, isText]

/-! ## Two keys -/

/-- A key has a path of kinds and identifiers, and it may be pinned to a namespace. -/
structure Denotes (stored : Nat → Option Datum) (k : Key) (path : List (String × Id))
    (own : Option String) : Prop where
  path : k.path.DenotesPath stored path
  own : k.keyNamespace.DenotesId stored (.ofText? own)

/-- A path that is made of kinds and identifiers stands for what they stand for. -/
theorem denotesPath_pathOf {elements : List (Value × Value)} {path : List (String × Id)}
    (each : List.Forall₂ (fun e p => e.1.DenotesId stored (.name p.1) ∧ e.2.DenotesId stored p.2)
      elements path) : (pathOf elements).DenotesPath stored path := by
  refine ⟨trivial, elements.map fun e => .tuple [e.1, e.2], rfl, ?_⟩
  rw [List.forall₂_map_left_iff]
  exact each.imp fun e p parts => ⟨trivial, e.1, e.2, rfl, parts.1, parts.2⟩

/-- `Key.encode` of two keys fails for identifiers with too many digits only. Their encoded forms
are `equal` just if their paths are and the namespaces that count for them are, and both are so only
if they have the same kinds and identifiers and the same texts, or none. From the encoded form all
of this can be read by `decode?`. -/
theorem encode_lossless {k₁ k₂ : Key} {path₁ path₂ : List (String × Id)}
    {own₁ own₂ given₁ given₂ : Option String} {n₁ n₂ : Value} (h₁ : k₁.Denotes stored path₁ own₁)
    (h₂ : k₂.Denotes stored path₂ own₂) (hn₁ : n₁.DenotesId stored (.ofText? given₁))
    (hn₂ : n₂.DenotesId stored (.ofText? given₂)) :
    ∃ v₁ v₂,
      k₁.encode n₁ = (if path₁.all (·.2.isWritable) then .ok v₁ else .error .tooManyDigits) ∧
      k₂.encode n₂ = (if path₂.all (·.2.isWritable) then .ok v₂ else .error .tooManyDigits) ∧
      (v₁.equal v₂ = true ↔ k₁.path.equal k₂.path = true ∧
        (k₁.effective n₁).equal (k₂.effective n₂) = true) ∧
      (k₁.path.equal k₂.path = true ↔ path₁ = path₂) ∧
      ((k₁.effective n₁).equal (k₂.effective n₂) = true ↔ own₁.or given₁ = own₂.or given₂) ∧
      decode? v₁ = some (path₁, own₁.or given₁) ∧ decode? v₂ = some (path₂, own₂.or given₂) := by
  obtain ⟨v₁, made₁, encodes₁⟩ := encode_of_denotes h₁.path h₁.own hn₁
  obtain ⟨v₂, made₂, encodes₂⟩ := encode_of_denotes h₂.path h₂.own hn₂
  have paths := h₁.path.equal_iff h₂.path
  have namespaces := (effective_denotes h₁.own hn₁).equal_iff (effective_denotes h₂.own hn₂)
  rw [Id.ofText?_injective.eq_iff] at namespaces
  -- Both comparisons are brought down to what is denoted, and there they are the same.
  refine ⟨v₁, v₂, made₁, made₂, ?_, paths, namespaces, encodes₁.decode, encodes₂.decode⟩
  rw [encodes₁.equal_iff encodes₂, paths, namespaces]

/-- A key that is used for a namespace is encoded as the one that is pinned to it, wherever their
parts are. A number and its digits, no name and an empty one, and no namespace and an empty one are
kept apart. -/
theorem encode_lossless_seven :
    let team : Value := .object 1 fun _ => .text "Team"
    let seven : Value := .object 2 fun _ => .int 7
    let stored : Nat → Option Datum := fun number =>
      if number = 1 then some (.id (.name "Team"))
      else if number = 2 then some (.id (.number 7)) else none
    let used : Key := ⟨pathOf [(team, seven), (.text "Player", .none)], .none⟩
    let pinned : Key := ⟨pathOf [(.text "Team", .int 7), (.text "Player", .none)], .text "n"⟩
    let named : Key := ⟨pathOf [(team, .text "7"), (.text "Player", .text "")], .text ""⟩
    (used.Denotes stored [("Team", .number 7), ("Player", .missing)] none ∧
      pinned.Denotes stored [("Team", .number 7), ("Player", .missing)] (some "n") ∧
      named.Denotes stored [("Team", .name "7"), ("Player", .name "")] (some "") ∧
      (Value.text "n").DenotesId stored (.ofText? (some "n")) ∧
      Value.none.DenotesId stored (.ofText? none)) ∧
    (∃ v₁ v₂, used.encode (.text "n") = .ok v₁ ∧ pinned.encode .none = .ok v₂ ∧
      v₁.equal v₂ = true) ∧
    ∃ v₁ v₂, used.encode .none = .ok v₁ ∧ named.encode .none = .ok v₂ ∧ v₁.equal v₂ = false ∧
      decode? v₁ = some ([("Team", .number 7), ("Player", .missing)], none) ∧
      decode? v₂ = some ([("Team", .name "7"), ("Player", .name "")], some "") := by
  intro team seven stored used pinned named
  have teamOf : team.DenotesId stored (.name "Team") := ⟨⟨rfl, rfl⟩, rfl⟩
  have sevenOf : seven.DenotesId stored (.number 7) := ⟨⟨rfl, rfl⟩, rfl⟩
  have textOf : ∀ s, (Value.text s).DenotesId stored (.name s) := fun s => ⟨trivial, rfl⟩
  have noneOf : Value.none.DenotesId stored .missing := ⟨trivial, rfl⟩
  have numberOf : (Value.int 7).DenotesId stored (.number 7) := ⟨trivial, rfl⟩
  have hUsed : used.Denotes stored [("Team", .number 7), ("Player", .missing)] none :=
    ⟨denotesPath_pathOf (.cons ⟨teamOf, sevenOf⟩ (.cons ⟨textOf _, noneOf⟩ .nil)), noneOf⟩
  have hPinned : pinned.Denotes stored [("Team", .number 7), ("Player", .missing)] (some "n") :=
    ⟨denotesPath_pathOf (.cons ⟨textOf _, numberOf⟩ (.cons ⟨textOf _, noneOf⟩ .nil)), textOf _⟩
  have hNamed : named.Denotes stored [("Team", .name "7"), ("Player", .name "")] (some "") :=
    ⟨denotesPath_pathOf (.cons ⟨teamOf, textOf _⟩ (.cons ⟨textOf _, textOf _⟩ .nil)), textOf _⟩
  have given : (Value.text "n").DenotesId stored (.ofText? (some "n")) := textOf "n"
  have nothing : Value.none.DenotesId stored (.ofText? none) := noneOf
  refine ⟨⟨hUsed, hPinned, hNamed, given, nothing⟩, ?_, ?_⟩
  · obtain ⟨v₁, v₂, made₁, made₂, same, paths, namespaces, -⟩ :=
      encode_lossless hUsed hPinned given nothing
    exact ⟨v₁, v₂, made₁, made₂, same.mpr ⟨paths.mpr rfl, namespaces.mpr rfl⟩⟩
  · obtain ⟨v₁, v₂, made₁, made₂, same, paths, -, read₁, read₂⟩ :=
      encode_lossless hUsed hNamed nothing nothing
    refine ⟨v₁, v₂, made₁, made₂, ?_, read₁, read₂⟩
    rw [← Bool.not_eq_true]
    intro equal
    have samePath := paths.mp (same.mp equal).1
    cases samePath

end Key

end EntityQuery
