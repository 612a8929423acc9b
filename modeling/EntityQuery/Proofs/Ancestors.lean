import EntityQuery.Proofs.KeyPath

/-!
# Ancestors of a key

The parent of a key is made anew, of a path that is one element shorter, and is checked like any
other key. It always passes: an identifier may be missing at the end of a path only, and the end is
what a parent leaves out.

* `Key.Passing` are the elements that pass the checks, by their positions. They do so without the
  last one, too (`Key.Passing.dropLast`).
* `Key.up` goes up some generations. `Key.MadeOf.parent` is one of them and `Key.MadeOf.up` any
  number, as long as elements are left.
* `Key.up_of_make` is about all ancestors of a key: what they are, where they end, and how they are
  encoded.
-/

namespace EntityQuery

namespace Key

/-- The key some generations up, if there is one: `parent` of `parent`, and so on. -/
def up (k : Key) : Nat → Except Failure (Option Key)
  | 0 => .ok (some k)
  | i + 1 => do
      match ← k.parent with
      | some parent => parent.up i
      | none => return none

/-! ## Elements that pass -/

/-- The elements of a path that pass the checks: pairs of a kind with a name and an identifier,
which is missing in the last one at most. -/
def Passing (elements : List Value) : Prop :=
  ∀ i element, elements[i]? = some element → ∃ kind id, element.unpack = .ok (kind, id) ∧
    kind.truthy = true ∧ IsId id ∧ (id.isNone = true → i + 1 = elements.length)

/-- `checkElements` succeeds just if the elements are `Passing`. -/
theorem checkElements_eq_ok_iff {path : Value} {elements : List Value}
    (length : path.length = .ok elements.length) :
    checkElements path 0 elements = .ok () ↔ Passing elements := by
  have succeeds := (failsBy_checkElements path elements 0).exists_eq_ok_iff
  have unit : (∃ u, checkElements path 0 elements = .ok u) ↔
      checkElements path 0 elements = .ok () := ⟨fun ⟨_, h⟩ => h, fun h => ⟨_, h⟩⟩
  rw [← unit, succeeds]
  constructor
  · intro fair i element at_i
    exact (forall_not_elementFault_iff_of_length length).mp
      (fair (element, i) (List.mk_mem_zipIdx_iff_getElem?.mpr at_i))
  · intro passing ⟨element, i⟩ among
    exact (forall_not_elementFault_iff_of_length length).mpr
      (passing i element (List.mk_mem_zipIdx_iff_getElem?.mp among))

theorem getElem?_of_dropLast {elements : List Value} {i : Nat} {element : Value}
    (at_i : elements.dropLast[i]? = some element) :
    elements[i]? = some element ∧ i + 1 < elements.length := by
  rw [List.getElem?_dropLast] at at_i
  split at at_i
  · exact ⟨at_i, by omega⟩
  · cases at_i

namespace Passing

variable {elements : List Value}

theorem present (passing : Passing elements) {element : Value}
    (early : element ∈ elements.dropLast) :
    ∃ kind id, element.unpack = .ok (kind, id) ∧ id.isNone = false := by
  obtain ⟨i, at_i⟩ := List.mem_iff_getElem?.mp early
  obtain ⟨at_i, notLast⟩ := getElem?_of_dropLast at_i
  obtain ⟨kind, id, pair, -, -, last⟩ := passing i element at_i
  refine ⟨kind, id, pair, ?_⟩
  rw [← Bool.not_eq_true]
  intro missing
  have := last missing
  omega

/-- `Passing` is kept when the last element goes, which is why a parent needs no new check to
succeed. -/
theorem dropLast (passing : Passing elements) : Passing elements.dropLast := by
  intro i element at_i
  obtain ⟨at_i', early⟩ := getElem?_of_dropLast at_i
  obtain ⟨kind, id, pair, named, fits, last⟩ := passing i element at_i'
  refine ⟨kind, id, pair, named, fits, fun missing => ?_⟩
  have := last missing
  omega

theorem pairs (passing : Passing elements) : ∀ e ∈ elements, ∃ pair, e.unpack = .ok pair := by
  intro element among
  obtain ⟨i, at_i⟩ := List.mem_iff_getElem?.mp among
  obtain ⟨kind, id, pair, -⟩ := passing i element at_i
  exact ⟨_, pair⟩

end Passing

/-! ## Going up -/

/-- A key with a list or tuple of some elements for its path. `parent` keeps the kind of sequence,
so `wrap` stays the same all the way up. -/
structure MadeOf (wrap : List Value → Value) (elements : List Value) (k : Key) : Prop where
  path : k.path.content = wrap elements
  nonempty : elements ≠ []
  passing : Passing elements

section

variable {wrap : List Value → Value} (isSequence : wrap = .list ∨ wrap = .tuple)
  {path : Value} {elements : List Value}

include isSequence

theorem items_of_content (seen : path.content = wrap elements) : path.items = .ok elements := by
  obtain rfl | rfl := isSequence <;> rw [Value.items, Value.items?, seen]

theorem length_of_content (seen : path.content = wrap elements) :
    path.length = .ok elements.length := by
  obtain rfl | rfl := isSequence <;> rw [Value.length, seen] <;> rfl

theorem truthy_of_content (seen : path.content = wrap elements) :
    path.truthy = true ↔ elements ≠ [] := by
  rw [← Value.truthy_content, seen]
  obtain rfl | rfl := isSequence <;> simp [Value.truthy]

theorem initPath_of_content (seen : path.content = wrap elements) :
    initPath path = .ok (wrap elements.dropLast) := by
  obtain rfl | rfl := isSequence <;> rw [initPath, seen]

theorem content_wrap (elements : List Value) : (wrap elements).content = wrap elements := by
  obtain rfl | rfl := isSequence <;> rfl

/-- `Key.make` on a path that is seen as a sequence. -/
theorem make_eq_ok_iff (seen : path.content = wrap elements) {ns : Value} {k : Key} :
    make path ns = .ok k ↔ k = ⟨path, ns⟩ ∧ elements ≠ [] ∧ Passing elements := by
  unfold make
  by_cases nonempty : elements ≠ []
  · rw [if_pos ((truthy_of_content isSequence seen).mpr nonempty), items_of_content isSequence seen]
    show (checkElements path 0 elements >>= fun _ => .ok ⟨path, ns⟩) = .ok k ↔ _
    rw [bind_eq_ok_iff, and_iff_right nonempty,
      ← checkElements_eq_ok_iff (length_of_content isSequence seen), Except.ok.injEq]
    exact ⟨fun ⟨_, passed, same⟩ => ⟨same.symm, passed⟩,
      fun ⟨same, passed⟩ => ⟨_, passed, same.symm⟩⟩
  · rw [if_neg (mt (truthy_of_content isSequence seen).mp nonempty)]
    exact iff_of_false (by simp) fun h => nonempty h.2.1

variable {k : Key}

/-- The step: `parent` is made of all elements but the last, and there is none if that is the only
one. -/
theorem MadeOf.parent (made : k.MadeOf wrap elements) :
    (elements.length = 1 ∧ k.parent = .ok none) ∨
      (elements.length ≠ 1 ∧ ∃ p : Key, k.parent = .ok (some p) ∧
        p.MadeOf wrap elements.dropLast ∧ p.keyNamespace = k.keyNamespace) := by
  obtain ⟨path, nonempty, passing⟩ := made
  have length := length_of_content isSequence path
  by_cases alone : elements.length = 1
  · refine .inl ⟨alone, ?_⟩
    rw [Key.parent, length, alone]
    rfl
  · refine .inr ⟨alone, ⟨wrap elements.dropLast, k.keyNamespace⟩, ?_, ?_, rfl⟩
    · have shorter : elements.dropLast ≠ [] := by
        have := List.length_pos_iff.mpr nonempty
        rw [← List.length_pos_iff, List.length_dropLast]
        omega
      have content := content_wrap isSequence elements.dropLast
      -- The parent is checked like any key, and passes since its elements did.
      have again := (make_eq_ok_iff isSequence content).mpr
        ⟨(rfl : _ = (⟨_, k.keyNamespace⟩ : Key)), shorter, passing.dropLast⟩
      rw [Key.parent, length]
      show (if elements.length = 1 then _ else _) = _
      rw [if_neg alone, initPath_of_content isSequence path]
      show (make _ _ >>= _) = _
      rw [again]
      rfl
    · refine ⟨content_wrap isSequence _, ?_, passing.dropLast⟩
      have := List.length_pos_iff.mpr nonempty
      rw [← List.length_pos_iff, List.length_dropLast]
      omega

theorem MadeOf.up (made : k.MadeOf wrap elements) {i : Nat} (inside : i < elements.length) :
    ∃ a : Key, k.up i = .ok (some a) ∧ a.MadeOf wrap (elements.take (elements.length - i)) ∧
      a.keyNamespace = k.keyNamespace := by
  induction i generalizing k elements with
  | zero => exact ⟨k, rfl, by rwa [Nat.sub_zero, List.take_length], rfl⟩
  | succ i ih =>
      obtain ⟨alone, -⟩ | ⟨-, p, isParent, madeParent, sameNamespace⟩ := made.parent isSequence
      · omega
      · have shorter : i < elements.dropLast.length := by
          rw [List.length_dropLast]
          omega
        obtain ⟨a, above, madeAbove, namespaceAbove⟩ := ih madeParent shorter
        refine ⟨a, ?_, ?_, namespaceAbove.trans sameNamespace⟩
        · rw [Key.up, isParent]
          exact above
        · rw [List.dropLast_eq_take, List.take_take, List.length_take] at madeAbove
          convert madeAbove using 2
          omega

/-- When all elements are gone, there is no key any more. -/
theorem MadeOf.up_length (made : k.MadeOf wrap elements) : k.up elements.length = .ok none := by
  generalize length : elements.length = n
  induction n generalizing k elements with
  | zero => exact absurd (List.length_eq_zero_iff.mp length) made.nonempty
  | succ n ih =>
      rw [Key.up]
      obtain ⟨alone, noParent⟩ | ⟨-, p, isParent, madeParent, -⟩ := made.parent isSequence
      · rw [noParent]
        rfl
      · rw [isParent]
        exact ih madeParent (by rw [List.length_dropLast, length]; rfl)

end

/-- The ancestors of a key. Going `up` never fails and ends after as many steps as the path has
elements. Every ancestor has the first elements of the path and the same namespace, and the
identifier of none of its elements is missing. The encoded path of an ancestor consists of the first
elements of the encoded path of the key, and their partitions are the same, for every namespace; a
key or an ancestor that has no encoded path has an identifier in its own path that `writeInteger`
refuses. -/
theorem up_of_make {wrap : List Value → Value} (isSequence : wrap = .list ∨ wrap = .tuple)
    {path ns : Value} {elements : List Value} (seen : path.content = wrap elements) {k : Key}
    (made : make path ns = .ok k) :
    k.up elements.length = .ok none ∧
    (∀ i < elements.length, ∃ a, k.up i = .ok (some a) ∧
      a.path.content = wrap (elements.take (elements.length - i)) ∧ a.keyNamespace = ns) ∧
    (∀ i < elements.length, 0 < i → ∀ element ∈ elements.take (elements.length - i),
      ∃ kind id, element.unpack = .ok (kind, id) ∧ id.isNone = false) ∧
    ∀ given, ∃ encoded : List Value, encoded.length = elements.length ∧
      ∀ i < elements.length, ∃ a, k.up i = .ok (some a) ∧
        a.encode given =
          if (elements.take (elements.length - i)).all isEncodable then
            .ok (.ofTexts [("keyValue", .ofTexts
              (("path", .list (encoded.take (elements.length - i))) ::
                encodePartition (k.effective given)))])
          else .error .tooManyDigits := by
  obtain ⟨rfl, nonempty, passing⟩ := (make_eq_ok_iff isSequence seen).mp made
  have madeOf : (⟨path, ns⟩ : Key).MadeOf wrap elements := ⟨seen, nonempty, passing⟩
  refine ⟨madeOf.up_length isSequence, ?_, ?_, ?_⟩
  · intro i inside
    obtain ⟨a, above, madeAbove, sameNamespace⟩ := madeOf.up isSequence inside
    exact ⟨a, above, madeAbove.path, sameNamespace⟩
  · intro i inside proper element among
    refine passing.present ?_
    rw [List.dropLast_eq_take]
    exact (List.take_prefix_take_left (by omega)).subset among
  · intro given
    refine ⟨elements.map encodedElement, List.length_map _, fun i inside => ?_⟩
    obtain ⟨a, above, madeAbove, sameNamespace⟩ := madeOf.up isSequence inside
    refine ⟨a, above, ?_⟩
    have partition : a.effective given = (⟨path, ns⟩ : Key).effective given := by
      rw [effective, effective, sameNamespace]
    rw [encode_eq_ite (items_of_content isSequence madeAbove.path) madeAbove.passing.pairs,
      partition, List.map_take]

/-- The ancestors of a key whose path is a list at a place, and whose own identifier is missing. -/
theorem up_of_make_three :
    let items : List Value := [.tuple [.text "Club", .int 7], .tuple [.text "Team", .text "first"],
      .tuple [.text "Player", .none]]
    let path : Value := .object 3 fun _ => .list items
    let k : Key := ⟨path, .none⟩
    (path.content = .list items ∧ make path .none = .ok k) ∧
    k.up 3 = .ok none ∧
    (∃ a, k.up 1 = .ok (some a) ∧ a.path.content = .list (items.take 2)) ∧
    (∀ element ∈ items.take 2, ∃ kind id, element.unpack = .ok (kind, id) ∧ id.isNone = false) ∧
    ∃ encoded : List Value, encoded.length = 3 ∧ ∃ a, k.up 2 = .ok (some a) ∧
      a.encode (.text "n") = .ok (.ofTexts [("keyValue", .ofTexts [("path", .list (encoded.take 1)),
        ("partitionId", .ofTexts [("namespaceId", .text "n")])])]) := by
  intro items path k
  have made : make path .none = .ok k := rfl
  obtain ⟨ends, above, present, encodes⟩ :=
    up_of_make (.inl rfl) (rfl : path.content = .list items) made
  obtain ⟨parent, isParent, content, -⟩ := above 1 (by decide)
  obtain ⟨encoded, length, each⟩ := encodes (.text "n")
  refine ⟨⟨rfl, made⟩, ends, ⟨parent, isParent, content⟩, ?_, encoded, length, ?_⟩
  · exact present 1 (by decide) (by decide)
  · exact each 2 (by decide)

end Key

end EntityQuery
