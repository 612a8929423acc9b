import EntityQuery.Proofs.FilterPlaces

/-!
# How the check of a filter goes down

The check of data for a filter runs the checks of the data directly below it, one after the other.
What the recursion guard has refused is handed on from each to the next, so that what a check says
depends on those before it, and nothing can be said of it alone.

* `Filter.schedule` are these checks, each with what had been refused by then. With it, what is said
  about all of them is said check by check (`Filter.FoundBelow`).
* `Filter.Descends` says that a check adds nothing to what the checks below it say of filters. A
  list of filters, a composite filter and the composite part of a filter each do
  (`Filter.compositeIn_descends`).
* Where all checks below accept what can be read, so does the composite part
  (`Filter.compositeIn_eq_ok_iff`).
* `Filter.ofCheckedParts_tells` is the one complaint that a filter adds itself.
-/

namespace EntityQuery

open Checked (Quiet quiet_ok quiet_complain)

/-! ## One check after the other -/

section

variable (check : Value → Descent (Filter Value))

/-- The checks of data for filters, in order, each with what had been refused by then. `checkItems`
threads what is refused through its items, and this lays it out. -/
def Filter.schedule :
    List (Place × Value) → List Value → List ((Place × Value) × List Value)
  | [], _ => []
  | e :: rest, refused => (e, refused) :: schedule rest (check e.2 refused).2

/-- What has been refused after all of them. -/
def Filter.refusedAfter : List (Place × Value) → List Value → List Value
  | [], refused => refused
  | e :: rest, refused => refusedAfter rest (check e.2 refused).2

/-- The problem as seen from the other end of a way: `Problem.under` for each step of it. -/
def Problem.below (way : Place) (p : Problem) : Problem := { p with place := way ++ p.place }

/-- A problem that one of the checks in `schedule` has found, as seen from around all of them. -/
def Filter.FoundBelow (children : List (Place × Value)) (refused : List Value) (p : Problem) :
    Prop :=
  ∃ s ∈ schedule check children refused, ∃ q ∈ (check s.1.2 s.2).1.found, p = q.below s.1.1

/-- Each of the checks in `schedule` accepts whatever `Filter.Reads` reads. -/
def Filter.AcceptsBelow (children : List (Place × Value)) (refused : List Value) : Prop :=
  ∀ s ∈ schedule check children refused, ∀ {f}, Reads s.1.2 f → (check s.1.2 s.2).1 = .ok f

/-- What a check says of filters is what the checks of `children` say, and it refuses what they
refuse. It is stated for a result and not for a function, since every stage between a filter and
those in it has a type of its own. -/
structure Filter.Descends {α : Type} (result : Checked α × List Value)
    (children : List (Place × Value)) (refused : List Value) : Prop where
  tells : result.1.Tells (FoundBelow check children refused)
  refused_eq : result.2 = refusedAfter check children refused

end

section

variable {check : Value → Descent (Filter Value)} {children : List (Place × Value)}
  {refused : List Value}

/-- The checks are those of the data, whatever else they are given. -/
theorem Filter.map_fst_schedule : (schedule check children refused).map Prod.fst = children := by
  induction children generalizing refused with
  | nil => rfl
  | cons e rest ih => simp [schedule, ih]

theorem Filter.mem_of_mem_schedule {s : (Place × Value) × List Value}
    (h : s ∈ schedule check children refused) : s.1 ∈ children := by
  have fst := @map_fst_schedule check children refused
  exact fst ▸ List.mem_map_of_mem h

theorem Filter.exists_mem_schedule {e : Place × Value} (h : e ∈ children) :
    ∃ s ∈ schedule check children refused, s.1 = e := by
  have fst := @map_fst_schedule check children refused
  exact List.mem_map.mp (fst.symm ▸ h)

/-- Where the data is has no part in its checks. -/
theorem Filter.schedule_map (way : Place → Place) :
    schedule check (children.map fun e => (way e.1, e.2)) refused =
      (schedule check children refused).map fun s => ((way s.1.1, s.1.2), s.2) := by
  induction children generalizing refused with
  | nil => rfl
  | cons e rest ih => simp [schedule, ih]

theorem Filter.refusedAfter_map (way : Place → Place) :
    refusedAfter check (children.map fun e => (way e.1, e.2)) refused =
      refusedAfter check children refused := by
  induction children generalizing refused with
  | nil => rfl
  | cons e rest ih => exact ih

theorem Filter.foundBelow_map_cons {step : Place.Step} {p : Problem} :
    FoundBelow check (children.map fun e => (step :: e.1, e.2)) refused p ↔
      ∃ q, p = q.under step ∧ FoundBelow check children refused q := by
  unfold FoundBelow
  rw [schedule_map (step :: ·)]
  constructor
  · rintro ⟨_, mem, q, found, rfl⟩
    obtain ⟨s, hs, rfl⟩ := List.mem_map.mp mem
    exact ⟨q.below s.1.1, rfl, s, hs, q, found, rfl⟩
  · rintro ⟨_, rfl, s, hs, q, found, rfl⟩
    exact ⟨((step :: s.1.1, s.1.2), s.2), List.mem_map_of_mem hs, q, found, rfl⟩

theorem Filter.foundBelow_cons {e : Place × Value} {p : Problem} :
    FoundBelow check (e :: children) refused p ↔
      (∃ q ∈ (check e.2 refused).1.found, p = q.below e.1) ∨
        FoundBelow check children (check e.2 refused).2 p := by
  simp [FoundBelow, schedule]

theorem Filter.AcceptsBelow.of_map {way : Place → Place}
    (h : AcceptsBelow check (children.map fun e => (way e.1, e.2)) refused) :
    AcceptsBelow check children refused := by
  intro s hs
  refine h ((way s.1.1, s.1.2), s.2) ?_
  rw [schedule_map way]
  exact List.mem_map_of_mem hs

variable {α : Type} {result : Checked α × List Value}

theorem Filter.Descends.under (h : Descends check result children refused) (step : Place.Step) :
    Descends check (result.1.under step, result.2)
      (children.map fun e => (step :: e.1, e.2)) refused where
  tells := (h.tells.under step).congr fun _ => foundBelow_map_cons.symm
  refused_eq := h.refused_eq.trans (refusedAfter_map (step :: ·)).symm

theorem Filter.descends_nil {c : Checked α} (quiet : c.Quiet) :
    Descends check (c, refused) [] refused :=
  ⟨quiet.congr fun _ => by simp [FoundBelow, schedule], rfl⟩

/-- `Filter.checkItems` says what its items say, behind their positions. By induction on the items,
with the index and what is refused left open. -/
theorem Filter.checkItems_descends {items : List Value} {index : Nat}
    (ends : ∀ e ∈ Place.indexed items index, ∀ refused, (check e.2 refused).1.Ends)
    (refused : List Value) :
    Descends check (checkItems check index items refused) (Place.indexed items index) refused := by
  induction items generalizing index refused with
  | nil => exact descends_nil (quiet_ok [])
  | cons v rest ih =>
      rw [Place.indexed_cons] at ends ⊢
      obtain ⟨first, others⟩ := List.forall_mem_cons.mp ends
      obtain ⟨tells, refused_eq⟩ := ih others (check v refused).2
      have here : (check v refused).1.Tells (· ∈ (check v refused).1.found) :=
        ⟨first refused, fun _ _ => Iff.rfl⟩
      refine ⟨?_, refused_eq⟩
      refine (Checked.Tells.and (Checked.Tells.and (quiet_ok _) (here.under _)) tells).congr
        fun p => ?_
      rw [foundBelow_cons]
      simp only [false_or, and_comm]
      rfl

end

/-! ## Filters in the fields of a composite filter -/

section

variable {check : Value → Descent (Filter Value)} {refused : List Value}

theorem Filter.checkSequence_descends {v : Value}
    (ends : ∀ e ∈ Place.indexed (v.sequence?.getD []) 0, ∀ refused, (check e.2 refused).1.Ends)
    (refused : List Value) :
    Descends check (checkSequence check v refused) (Place.indexed (v.sequence?.getD []) 0)
      refused := by
  unfold checkSequence
  cases seen : v.sequence? with
  | none => exact descends_nil (quiet_complain rfl)
  | some items =>
      rw [seen] at ends
      exact checkItems_descends ends refused

/-- `Filter.checkItems` accepts items that can each be read, by the same induction. -/
theorem Filter.checkItems_of_reads {items : List Value} {filters : List (Filter Value)}
    (read : List.Forall₂ Reads items filters) {index : Nat} {refused : List Value}
    (accepts : AcceptsBelow check (Place.indexed items index) refused) :
    (checkItems check index items refused).1 = .ok filters := by
  induction read generalizing index refused with
  | nil => rfl
  | cons first _ ih =>
      rw [Place.indexed_cons, AcceptsBelow, schedule, List.forall_mem_cons] at accepts
      have others := @ih (index + 1) _ accepts.2
      simp only [checkItems, accepts.1 first, others]
      rfl

theorem Filter.checkSequence_of_reads {v : Value} {items : List Value}
    {filters : List (Filter Value)} (seen : v.sequence? = some items)
    (read : List.Forall₂ Reads items filters)
    (accepts : AcceptsBelow check (Place.indexed (v.sequence?.getD []) 0) refused) :
    (checkSequence check v refused).1 = .ok filters := by
  rw [seen] at accepts
  simp only [checkSequence, seen]
  exact checkItems_of_reads read accepts

theorem CompositeFilter.filters_descends {entries : List (Value × Value)}
    (ends : ∀ e ∈ itemsIn entries, ∀ refused, (check e.2 refused).1.Ends) (refused : List Value) :
    Filter.Descends check
      (Field.filters.descend [] (Filter.checkSequence check) entries refused)
      (itemsIn entries) refused := by
  unfold Spelling.descend
  cases given : Field.filters.given? entries with
  | none =>
      rw [itemsIn, given]
      exact Filter.descends_nil (quiet_ok [])
  | some e =>
      rw [itemsIn_of_given given] at ends ⊢
      refine (Filter.checkSequence_descends (fun item mem => ?_) refused).under _
      exact ends (.key e.1 :: item.1, item.2) (List.mem_map.mpr ⟨item, mem, rfl⟩)

theorem CompositeFilter.filters_of_reads {entries : List (Value × Value)} {items : List Value}
    {filters : List (Filter Value)}
    (sequence : Field.filters.Reads (some []) (fun v items => v.sequence? = some items) entries
      items)
    (read : List.Forall₂ Filter.Reads items filters)
    (accepts : Filter.AcceptsBelow check (itemsIn entries) refused) :
    (Field.filters.descend [] (Filter.checkSequence check) entries refused).1 = .ok filters := by
  unfold Spelling.Reads at sequence
  unfold Spelling.descend
  cases given : Field.filters.given? entries with
  | none =>
      rw [given] at sequence
      obtain rfl := Option.some.inj sequence
      cases read
      rfl
  | some e =>
      rw [given] at sequence
      rw [itemsIn_of_given given] at accepts
      exact Checked.under_eq_ok.mpr (Filter.checkSequence_of_reads sequence read accepts.of_map)

/-! ## The composite part of a filter -/

/-- `CompositeFilter.descend?` on plain data says of filters what the checks of its items say. Of
plain data only, as a message in place of the data would be taken as it is. -/
theorem CompositeFilter.descend?_descends {inside : List Nat} {v : Value} (plain : v.IsPlain inside)
    (ends : ∀ e ∈ v.compositeItems, ∀ refused, (check e.2 refused).1.Ends) (refused : List Value) :
    Filter.Descends check (descend? check v refused) v.compositeItems refused := by
  unfold Value.compositeItems at ends ⊢
  unfold descend?
  split <;> rename_i seen
  · rw [seen]
    exact Filter.descends_nil (quiet_ok none)
  · exact absurd seen (plain.content_ne_message _)
  · rw [seen] at ends ⊢
    rename_i entries
    obtain ⟨inside', -, -, parts⟩ := plain.of_mapping seen
    have op : ∀ {name v}, Field.op.given? entries = some (name, v) →
        (checkCompositeOperator v).Quiet := by
      intro name v given
      obtain ⟨e, he, rfl⟩ := Spelling.mem_of_given? given
      exact (parts e he).quiet_checkMember _ _
    obtain ⟨tells, refused_eq⟩ := filters_descends ends refused
    -- The operator says nothing of filters, so what is said is said in the list.
    have composite : ((Checked.of fun op filters =>
        (⟨op, filters, none⟩ : CompositeFilter Value)).and (Field.op.defaulted .and
          checkCompositeOperator entries)).Quiet := (quiet_ok _).and (Spelling.quiet_defaulted op)
    exact ⟨((Checked.Tells.and composite tells).congr fun p => by simp).map some, refused_eq⟩
  · split
    · rename_i entries other
      exact (seen entries other).elim
    · exact Filter.descends_nil (quiet_complain rfl)

/-- Data for a composite filter that can be read is accepted. -/
theorem CompositeFilter.descend?_of_reads {v : Value} {y : Option (CompositeFilter Value)}
    (reads : v.Optionally Reads y)
    (accepts : Filter.AcceptsBelow check v.compositeItems refused) :
    (descend? check v refused).1 = .ok y := by
  rw [descend?_eq_ok_iff]
  cases y with
  | none => exact reads
  | some c =>
      refine ⟨reads.1, ?_⟩
      cases reads.2 with
      | taken seen => exact .taken seen
      | fields seen operator sequence length zip =>
          unfold Value.compositeItems at accepts
          rw [seen] at accepts
          have read := List.forall₂_iff_zip.mpr ⟨length, fun hp => zip _ hp⟩
          have filters := filters_of_reads sequence read accepts
          exact .given seen (descend_eq_ok_iff.mpr
            ⟨operator, Spelling.descend_eq_ok_iff.mp filters, rfl⟩)

/-- The result for the composite part of a filter, from the fields of a mapping. `checkIn` has it in
the middle of its body; it is named here to be spoken of. -/
def Filter.compositeIn (check : Value → Descent (Filter Value)) (entries : List (Value × Value)) :
    Descent (Option (CompositeFilter Value)) :=
  Field.compositeFilter.descend none (CompositeFilter.descend? check) entries

theorem Filter.compositeIn_descends {inside : List Nat} {entries : List (Value × Value)}
    (parts : ∀ e ∈ entries, e.2.IsPlain inside)
    (ends : ∀ e ∈ itemsIn entries, ∀ refused, (check e.2 refused).1.Ends) (refused : List Value) :
    Descends check (compositeIn check entries refused) (itemsIn entries) refused := by
  unfold compositeIn Spelling.descend
  cases given : Field.compositeFilter.given? entries with
  | none =>
      rw [itemsIn, given]
      exact descends_nil (quiet_ok none)
  | some e =>
      rw [itemsIn_of_given given] at ends ⊢
      obtain ⟨field, mem, same⟩ := Spelling.mem_of_given? given
      have plain := same ▸ parts field mem
      refine (CompositeFilter.descend?_descends plain (fun item mem => ?_) refused).under _
      exact ends (.key e.1 :: item.1, item.2) (List.mem_map.mpr ⟨item, mem, rfl⟩)

/-- `compositeIn` accepts what can be read, given that the checks below do. -/
theorem Filter.compositeIn_eq_ok_iff
    (sound : ∀ {v refused f}, (check v refused).1 = .ok f → Reads v f)
    {entries : List (Value × Value)} (accepts : AcceptsBelow check (itemsIn entries) refused)
    {y : Option (CompositeFilter Value)} :
    (compositeIn check entries refused).1 = .ok y ↔ Field.compositeFilter.Reads (some none)
      (Value.Optionally CompositeFilter.Reads) entries y := by
  unfold compositeIn Spelling.descend Spelling.Reads
  cases given : Field.compositeFilter.given? entries with
  | none => simp
  | some e =>
      rw [itemsIn_of_given given] at accepts
      rw [Checked.under_eq_ok]
      exact ⟨CompositeFilter.reads_of_descend? sound,
        fun reads => CompositeFilter.descend?_of_reads reads accepts.of_map⟩

end

/-! ## A filter from its parts -/

/-- `ofCheckedParts` asks for exactly one part if both can be had and both are there or neither
is. All else that is said of filters is said in the composite part, since the property part is
`Quiet`. -/
theorem Filter.ofCheckedParts_tells {property : Checked (Option (PropertyFilter Value))}
    {composite : Checked (Option (CompositeFilter Value))} {told : Problem → Prop}
    (hp : property.Quiet) (hc : composite.Tells told) :
    (ofCheckedParts property composite).Tells fun p =>
      (p = ⟨[], .exactlyOneExpected⟩ ∧
        ∃ x y, property = .ok x ∧ composite = .ok y ∧ x.isSome = y.isSome) ∨ told p := by
  obtain ⟨ends, quiet⟩ := hp
  obtain ⟨ends', found_iff⟩ := hc
  cases ends with
  | problems p rest =>
      -- The problems of the parts are all there are.
      cases ends' with
      | ok y =>
          refine ⟨.problems p rest, fun q ofFilter => (quiet q ofFilter).trans ?_⟩
          simp [← found_iff q ofFilter, Checked.found]
      | problems r rest' =>
          refine ⟨.problems p (rest ++ r :: rest'), fun q ofFilter => ?_⟩
          have joined : (ofCheckedParts (.error (.problems (p :: rest)))
              (.error (.problems (r :: rest')))).found = (p :: rest) ++ (r :: rest') := rfl
          have here := quiet q ofFilter
          have there := found_iff q ofFilter
          simp only [Checked.found] at here there
          rw [joined, List.mem_append, here, there]
          simp
  | ok x =>
      cases ends' with
      | problems r rest =>
          refine ⟨.problems r rest, fun q ofFilter => (found_iff q ofFilter).trans ?_⟩
          simp
      | ok y =>
          have untold : ∀ q, q.complaint.ofFilter = true → ¬ told q := fun q ofFilter there => by
            simpa [Checked.found] using (found_iff q ofFilter).mpr there
          have decided : ofCheckedParts (.ok x) (.ok y) = ofParts x y := rfl
          rw [decided]
          cases x <;> cases y
          · refine ⟨.problems _ [], fun q ofFilter => ?_⟩
            simp [Checked.found, ofParts, Checked.complain, untold q ofFilter]
          · refine ⟨.ok _, fun q ofFilter => ?_⟩
            simp [Checked.found, ofParts, untold q ofFilter]
          · refine ⟨.ok _, fun q ofFilter => ?_⟩
            simp [Checked.found, ofParts, untold q ofFilter]
          · refine ⟨.problems _ [], fun q ofFilter => ?_⟩
            simp [Checked.found, ofParts, Checked.complain, untold q ofFilter]

end EntityQuery
