import Mathlib.Data.List.Basic
import EntityQuery.Proofs.Acceptance

/-!
# The first of several faults

What goes through several items one after another fails by the first of them that is at fault.

* `FirstFault` is the fault of the first item of a list that has one. It is taken apart along the
  list by `firstFault_cons` and `firstFault_append`, and along positions by `firstFault_zipIdx`.
* `FailsBy` is a computation that fails by the first fault among some items, and by nothing else.
  `FailsBy.bind` puts two of them together.
-/

namespace EntityQuery

/-- The fault of the first item of a list that has one. `fault` is a relation, since an item may
have to be described to be blamed. -/
def FirstFault {α : Type} (fault : α → Failure → Prop) (l : List α) (e : Failure) : Prop :=
  ∃ before a after, l = before ++ a :: after ∧ (∀ b ∈ before, ∀ e', ¬ fault b e') ∧ fault a e

section

variable {α : Type} {fault : α → Failure → Prop} {e : Failure}

@[simp] theorem not_firstFault_nil : ¬ FirstFault fault [] e := by
  intro ⟨before, a, after, parts, _⟩
  cases before <;> cases parts

theorem firstFault_cons {a : α} {l : List α} :
    FirstFault fault (a :: l) e ↔ fault a e ∨ (∀ e', ¬ fault a e') ∧ FirstFault fault l e := by
  constructor
  · intro ⟨before, b, after, parts, passed, faulty⟩
    cases before with
    | nil =>
        cases parts
        exact .inl faulty
    | cons first before =>
        cases parts
        obtain ⟨first, others⟩ := List.forall_mem_cons.mp passed
        exact .inr ⟨first, before, b, after, rfl, others, faulty⟩
  · intro h
    obtain faulty | ⟨first, before, b, after, rfl, passed, faulty⟩ := h
    · exact ⟨[], a, l, rfl, by simp, faulty⟩
    · exact ⟨a :: before, b, after, rfl, List.forall_mem_cons.mpr ⟨first, passed⟩, faulty⟩

@[simp] theorem firstFault_singleton {a : α} : FirstFault fault [a] e ↔ fault a e := by
  simp [firstFault_cons]

/-- The first fault in two lists is that of the first list, unless there is none in it. -/
theorem firstFault_append {l l' : List α} :
    FirstFault fault (l ++ l') e ↔
      FirstFault fault l e ∨ (∀ a ∈ l, ∀ e', ¬ fault a e') ∧ FirstFault fault l' e := by
  induction l with
  | nil => simp
  | cons a rest ih =>
      rw [List.cons_append, firstFault_cons, firstFault_cons, ih, List.forall_mem_cons, or_assoc,
        and_or_left, and_assoc]

/-- There is a first fault if there is one at all. -/
theorem exists_firstFault_iff {l : List α} :
    (∃ e, FirstFault fault l e) ↔ ∃ a ∈ l, ∃ e, fault a e := by
  induction l with
  | nil => simp
  | cons a rest ih =>
      simp only [firstFault_cons, exists_or, exists_and_left, ih, List.exists_mem_cons_iff]
      by_cases first : ∃ e, fault a e
      · exact iff_of_true (.inl first) (.inl first)
      · rw [or_iff_right first, or_iff_right first]
        exact and_iff_right (not_exists.mp first)

/-- A fault among the items that others are mapped to. -/
theorem firstFault_map {β : Type} {f : β → α} {l : List β} :
    FirstFault fault (l.map f) e ↔ FirstFault (fun b => fault (f b)) l e := by
  induction l with
  | nil => simp
  | cons b rest ih => rw [List.map_cons, firstFault_cons, firstFault_cons, ih]

/-- The first fault among items that depend on their positions, with the items before it and the
ones after it spelt out. -/
theorem firstFault_zipIdx {fault : α × Nat → Failure → Prop} {l : List α} {i : Nat} :
    FirstFault fault (l.zipIdx i) e ↔ ∃ before a after, l = before ++ a :: after ∧
      (∀ b ∈ before.zipIdx i, ∀ e', ¬ fault b e') ∧ fault (a, i + before.length) e := by
  constructor
  · intro ⟨before, a, after, parts, fair, faulty⟩
    obtain ⟨l₁, l₂, rfl, rfl, rest⟩ := List.zipIdx_eq_append_iff.mp parts
    obtain ⟨b, l₃, rfl, rfl, rfl⟩ := List.zipIdx_eq_cons_iff.mp rest.symm
    exact ⟨l₁, b, l₃, rfl, fair, faulty⟩
  · intro ⟨before, a, after, parts, fair, faulty⟩
    rw [parts, List.zipIdx_append, List.zipIdx_cons]
    exact ⟨_, _, _, rfl, fair, faulty⟩

/-- A computation that fails by the first fault among some items, and only by that. It composes
along `>>=` as the lists do along `++`. -/
def FailsBy {β : Type} (fault : α → Failure → Prop) (l : List α) (x : Except Failure β) : Prop :=
  ∀ e, x = .error e ↔ FirstFault fault l e

namespace FailsBy

variable {β γ : Type} {l l' : List α} {x : Except Failure β} {f : β → Except Failure γ}

theorem exists_eq_ok_iff (h : FailsBy fault l x) :
    (∃ b, x = .ok b) ↔ ∀ a ∈ l, ∀ e, ¬ fault a e := by
  have fails : (∃ e, x = .error e) ↔ ∃ a ∈ l, ∃ e, fault a e := by
    rw [← exists_firstFault_iff]
    exact exists_congr h
  have total : (∃ b, x = .ok b) ↔ ¬ ∃ e, x = .error e := by cases x <;> simp
  rw [total, fails]
  simp only [not_exists, not_and]

/-- Items that are gone through later are at fault only if the earlier ones are not, so `>>=` is
`++` on the lists. -/
theorem bind (first : FailsBy fault l x)
    (second : ∀ b, x = .ok b → FailsBy fault l' (f b)) : FailsBy fault (l ++ l') (x >>= f) := by
  intro e
  rw [bind_eq_error_iff, firstFault_append, first e]
  refine or_congr_right ?_
  constructor
  · intro ⟨b, passed, failed⟩
    exact ⟨first.exists_eq_ok_iff.mp ⟨b, passed⟩, (second b passed e).mp failed⟩
  · intro ⟨fair, fault⟩
    obtain ⟨b, passed⟩ := first.exists_eq_ok_iff.mpr fair
    exact ⟨b, passed, (second b passed e).mpr fault⟩

theorem ok (b : β) : FailsBy fault [] (.ok b : Except Failure β) := by
  intro e
  simp

theorem cons {a : α} (first : ∀ e, x = .error e ↔ fault a e)
    (second : ∀ b, x = .ok b → FailsBy fault l (f b)) : FailsBy fault (a :: l) (x >>= f) := by
  have single : FailsBy fault [a] x := fun e => (first e).trans firstFault_singleton.symm
  exact single.bind second

/-- What is made of a result afterwards does not fail. -/
theorem map (h : FailsBy fault l x) (g : β → γ) : FailsBy fault l (g <$> x) :=
  fun e => map_eq_error_iff.trans (h e)

end FailsBy

end

end EntityQuery
