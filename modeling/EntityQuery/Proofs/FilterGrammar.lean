import EntityQuery.Proofs.RecursionGuard

/-!
# Filters and their grammar

Validating plain data for a filter does just what the grammar of filters says, but where the
recursion guard stops at a filter with too many others around it.

* `Filter.Follows` says so of a result for some data. What is refused is left free, as the check of
  a filter starts with whatever those before it have left.
* `Filter.checkIn_follows` is the induction on levels, by what is seen of the data: something that
  is refused already, a mapping, whose fields are `Filter.fromEntries`, or anything else.
* That what is accepted is not too deep is an induction of its own (`Filter.within_of_checkIn`),
  since it is about data of any kind.
* `Filter.validate_plain` is the whole, and `Filter.validate_nested` why the depth matters.
-/

namespace EntityQuery

/-! ## The induction on levels -/

/-- The result of `checkIn` for some data is what `Filter.Reads` says, as far as the guard lets it:
the induction hypothesis of this module, with `Asks` and `Stops` for the problems. -/
structure Filter.Follows (levels : Nat) (refused : List Value) (v : Value)
    (result : Checked (Filter Value) × List Value) : Prop where
  ends : result.1.Ends
  asks : Asks v result.1.found
  stops : Stops levels refused v result.1.found
  kept : ∀ u ∈ result.2, u ∈ refused ∨ TooDeepIn levels v result.1.found u
  accepts : ∀ {f}, Reads v f → (∀ stop, ¬ Problem.StoppedAt result.1.found stop) →
    result.1 = .ok f

/-- Plain data is not at a place that it is inside of, so the guard never takes it for a cycle. -/
theorem Value.IsPlain.isAmong {inside around : List Nat} {v : Value} (h : v.IsPlain inside)
    (sub : around ⊆ inside) : v.isAmong around = false := by
  cases h with
  | @object _ number _ outside _ =>
      have : number ∉ around := fun there => outside (sub there)
      simpa [Value.isAmong, place?] using this
  | _ => rfl

/-- The property part of a filter, in its fields, is accepted as it is read. -/
theorem Filter.property_eq_ok_iff {entries : List (Value × Value)}
    {x : Option (PropertyFilter Value)} :
    Field.propertyFilter.defaulted none (checkOptional PropertyFilter.check) entries = .ok x ↔
      Field.propertyFilter.Reads (some none) (Value.Optionally PropertyFilter.Reads) entries x := by
  simp only [Spelling.defaulted_eq_ok_iff, checkOptional_eq_ok_iff, PropertyFilter.check_eq_ok_iff]

/-- The property part of a filter is `Quiet`: nothing in it can ask for exactly one part. -/
theorem Filter.quiet_property {inside : List Nat} {entries : List (Value × Value)}
    (parts : ∀ e ∈ entries, e.2.IsPlain inside) :
    (Field.propertyFilter.defaulted none (checkOptional PropertyFilter.check) entries).Quiet := by
  refine Spelling.quiet_defaulted fun given => ?_
  obtain ⟨e, he, rfl⟩ := Spelling.mem_of_given? given
  exact quiet_checkOptional (PropertyFilter.quiet_check (parts e he))

/-- `Undecided` by the parts that are read, for data that is seen as a mapping. -/
theorem Filter.undecided_iff {v : Value} {entries : List (Value × Value)}
    (seen : v.content = .mapping entries) :
    Undecided v ↔ ∃ x y, PartsRead entries x y ∧ x.isSome = y.isSome := by
  constructor
  · rintro ⟨entries', x, y, seen', reads, same⟩
    obtain rfl := Value.mapping.inj (seen.symm.trans seen')
    exact ⟨x, y, reads, same⟩
  · rintro ⟨x, y, reads, same⟩
    exact ⟨entries, x, y, seen, reads, same⟩

/-- A complaint of the guard about some data is all that is said of it, and nothing is asked. -/
theorem Filter.asks_of_stop {c : Complaint} (isStop : c.isStop = true) (v : Value) :
    Asks v [⟨[], c⟩] := by
  intro place
  have stopped : Problem.StoppedAt [⟨[], c⟩] [] := ⟨_, List.mem_singleton_self _, rfl, isStop⟩
  constructor
  · intro asked
    obtain rfl := (Problem.mk.inj (List.mem_singleton.mp asked)).2
    cases isStop
  · rintro ⟨_, _, _, _, unstopped⟩
    exact absurd List.nil_prefix (unstopped [] stopped).1

/-- The first way in which the guard stops: data that is `identical` to something that it has
refused. -/
theorem Filter.follows_of_again {levels : Nat} {inside : List Nat} {v : Value}
    {refused : List Value} (again : refused.any v.identical = true) :
    Follows levels refused v (checkIn levels inside v refused) := by
  have checked : checkIn levels inside v refused = (.complain .recursive, refused) := by
    unfold checkIn
    rw [again, Bool.or_true, if_pos rfl]
  have stopped : Problem.StoppedAt [⟨[], .recursive⟩] [] :=
    ⟨_, List.mem_singleton_self _, rfl, rfl⟩
  obtain ⟨u, mem, identical⟩ := List.any_eq_true.mp again
  refine ⟨?_, ?_, ?_, ?_, ?_⟩ <;> rw [checked]
  · exact .problems _ []
  · exact asks_of_stop rfl v
  · refine ⟨fun deep => ?_, fun found => ?_, fun _ => ⟨[], stopped, List.nil_prefix⟩⟩
    · cases (Problem.mk.inj (List.mem_singleton.mp deep)).2
    · obtain rfl := (Problem.mk.inj (List.mem_singleton.mp found)).1
      exact ⟨0, v, u, .here v, identical, .inl mem⟩
  · exact fun u before => .inl before
  · exact fun _ unstopped => absurd stopped (unstopped [])

/-- The second one: no level is left. From here on the data counts as refused. -/
theorem Filter.follows_zero {inside : List Nat} {v : Value} {refused : List Value}
    (apart : v.isAmong inside = false) (new : refused.any v.identical = false) :
    Follows 0 refused v (checkIn 0 inside v refused) := by
  have checked : checkIn 0 inside v refused = (.complain .tooDeep, v :: refused) := by
    unfold checkIn
    rw [apart, new]
    rfl
  have stopped : Problem.StoppedAt [⟨[], .tooDeep⟩] [] :=
    ⟨_, List.mem_singleton_self _, rfl, rfl⟩
  refine ⟨?_, ?_, ?_, ?_, ?_⟩ <;> rw [checked]
  · exact .problems _ []
  · exact asks_of_stop rfl v
  · refine ⟨fun deep => ?_, fun found => ?_, fun _ => ⟨[], stopped, List.nil_prefix⟩⟩
    · obtain rfl := (Problem.mk.inj (List.mem_singleton.mp deep)).1
      exact ⟨v, .here v⟩
    · cases (Problem.mk.inj (List.mem_singleton.mp found)).2
  · intro u mem
    rcases List.mem_cons.mp mem with rfl | before
    · exact .inr ⟨[], List.mem_singleton_self _, .here u⟩
    · exact .inl before
  · exact fun _ unstopped => absurd stopped (unstopped [])

/-- Data that is seen as neither a mapping nor a filter is none, and there is none below it. -/
theorem Filter.follows_of_other {levels : Nat} {inside : List Nat} {v : Value}
    {refused : List Value} (apart : v.isAmong inside = false)
    (new : refused.any v.identical = false) (noMapping : ∀ entries, v.content ≠ .mapping entries)
    (noMessage : ∀ m, v.content ≠ .message m) :
    Follows (levels + 1) refused v (checkIn (levels + 1) inside v refused) := by
  have checked : checkIn (levels + 1) inside v refused =
      (.complain (.messageExpected .filter), refused) := by
    rw [checkIn, apart, new]
    simp only [Bool.or_self, Bool.false_eq_true, if_false]
    split <;> rename_i seen
    · exact absurd seen (noMessage _)
    · exact absurd seen (noMapping _)
    · rfl
  have childless : v.subfilters = [] := by
    unfold Value.subfilters
    split
    · exact absurd ‹_› (noMapping _)
    · rfl
  have alone : ∀ c place, c.ofFilter = true →
      (⟨place, c⟩ : Problem) ∉ [⟨[], .messageExpected .filter⟩] := by
    intro c place ofFilter mem
    obtain rfl := (Problem.mk.inj (List.mem_singleton.mp mem)).2
    cases ofFilter
  refine ⟨?_, ?_, ?_, ?_, ?_⟩ <;> rw [checked]
  · exact .problems _ []
  · intro place
    refine iff_of_false (alone _ place rfl) ?_
    rintro ⟨_, _, _ | ⟨child, _⟩, ⟨entries, _, _, seen, _⟩, _⟩
    · exact noMapping entries seen
    · rw [childless] at child
      cases child
  · refine ⟨fun deep => absurd deep (alone _ _ rfl), fun again => absurd again (alone _ _ rfl), ?_⟩
    rintro _ _ (_ | ⟨child, _⟩)
    rw [childless] at child
    cases child
  · exact fun u before => .inl before
  · intro f reads
    obtain message | ⟨entries, _, _, seen, -⟩ := reads_iff.mp reads
    · exact absurd message (noMessage _)
    · exact absurd seen (noMapping entries)

/-! ### Mappings -/

section

variable {levels : Nat} {check : Value → Descent (Filter Value)} {refused : List Value} {v : Value}
  {entries : List (Value × Value)} {inside : List Nat}

/-- The result for the property part of a filter, from the fields of a mapping. -/
def Filter.propertyIn (entries : List (Value × Value)) : Checked (Option (PropertyFilter Value)) :=
  Field.propertyFilter.defaulted none (checkOptional PropertyFilter.check) entries

/-- A filter, from the fields of a mapping: `ofCheckedParts` of the two parts. It is what `checkIn`
does with a mapping once the guard has let it through. -/
def Filter.fromEntries (check : Value → Descent (Filter Value)) (entries : List (Value × Value)) :
    Descent (Filter Value) := fun refused =>
  let composite := compositeIn check entries refused
  (ofCheckedParts (propertyIn entries) composite.1, composite.2)

/-- Data that the guard lets through and that is seen as a mapping is checked by its fields. -/
theorem Filter.checkIn_of_mapping (apart : v.isAmong inside = false)
    (new : refused.any v.identical = false) (seen : v.content = .mapping entries) :
    checkIn (levels + 1) inside v refused =
      fromEntries (checkIn levels (v.place?.toList ++ inside)) entries refused := by
  rw [checkIn, apart, new]
  simp only [Bool.or_self, Bool.false_eq_true, if_false]
  rw [seen]
  rfl

/-- Both parts are accepted, and both are there or neither is. `Undecided` says the same by what can
be read, and `asksHere_iff` joins them. -/
def Filter.AsksHere (check : Value → Descent (Filter Value)) (entries : List (Value × Value))
    (refused : List Value) : Prop :=
  ∃ x y, propertyIn entries = .ok x ∧ (compositeIn check entries refused).1 = .ok y ∧
    x.isSome = y.isSome

section

variable (parts : ∀ e ∈ entries, e.2.IsPlain inside)
  (ends : ∀ e ∈ Filter.itemsIn entries, ∀ refused, (check e.2 refused).1.Ends)

include parts ends

theorem Filter.fromEntries_tells : (fromEntries check entries refused).1.Tells fun p =>
    (p = ⟨[], .exactlyOneExpected⟩ ∧ AsksHere check entries refused) ∨
      FoundBelow check (itemsIn entries) refused p :=
  ofCheckedParts_tells (quiet_property parts) (compositeIn_descends parts ends refused).tells

/-- Where both parts are accepted, nothing is said of filters below. -/
theorem Filter.not_foundBelow_of_asksHere (asks : AsksHere check entries refused) {p : Problem}
    (ofFilter : p.complaint.ofFilter = true) : ¬ FoundBelow check (itemsIn entries) refused p := by
  obtain ⟨x, y, -, composite, -⟩ := asks
  rw [← (compositeIn_descends parts ends refused).tells.found_iff p ofFilter, composite]
  exact List.not_mem_nil

end

/-- `AsksHere` is `Undecided` where the checks below accept just what can be read. This needs
`AcceptsBelow`, and so it fails above a filter that the guard has stopped at. -/
theorem Filter.asksHere_iff (sound : ∀ {v refused f}, (check v refused).1 = .ok f → Reads v f)
    (accepts : AcceptsBelow check (itemsIn entries) refused) (seen : v.content = .mapping entries) :
    AsksHere check entries refused ↔ Undecided v := by
  rw [undecided_iff seen]
  constructor
  · rintro ⟨x, y, property, composite, same⟩
    exact ⟨x, y, ⟨property_eq_ok_iff.mp property,
      (compositeIn_eq_ok_iff sound accepts).mp composite⟩, same⟩
  · rintro ⟨x, y, reads, same⟩
    exact ⟨x, y, property_eq_ok_iff.mpr reads.property,
      (compositeIn_eq_ok_iff sound accepts).mpr reads.composite, same⟩

theorem Filter.fromEntries_of_reads
    (sound : ∀ {v refused f}, (check v refused).1 = .ok f → Reads v f)
    (accepts : AcceptsBelow check (itemsIn entries) refused) (seen : v.content = .mapping entries)
    {f : Filter Value} (reads : Reads v f) : (fromEntries check entries refused).1 = .ok f := by
  obtain message | ⟨entries', x, y, seen', reads, one⟩ := reads_iff.mp reads
  · rw [seen] at message
    cases message
  · obtain rfl := Value.mapping.inj (seen.symm.trans seen')
    exact ofCheckedParts_eq_ok_iff.mpr ⟨x, y, property_eq_ok_iff.mpr reads.property,
      (compositeIn_eq_ok_iff sound accepts).mpr reads.composite, one⟩

/-- The step of the induction: a filter from a mapping follows the grammar if the data in
`subfilters` does. -/
theorem Filter.fromEntries_follows (seen : v.content = .mapping entries)
    (parts : ∀ e ∈ entries, e.2.IsPlain inside)
    (sound : ∀ {v refused f}, (check v refused).1 = .ok f → Reads v f)
    (each : ∀ e ∈ v.subfilters, ∀ refused, Follows levels refused e.2 (check e.2 refused)) :
    Follows (levels + 1) refused v (fromEntries check entries refused) := by
  have children : v.subfilters = itemsIn entries := by rw [Value.subfilters, seen]
  have ends : ∀ e ∈ itemsIn entries, ∀ refused, (check e.2 refused).1.Ends :=
    fun e he refused => (each e (children ▸ he) refused).ends
  have tells := @fromEntries_tells check refused entries inside parts ends
  have found_iff := tells.found_iff
  rw [← children] at found_iff
  have below : ∀ s ∈ schedule check v.subfilters refused,
      Follows levels s.2 s.1.2 (check s.1.2 s.2) :=
    fun s hs => each s.1 (mem_of_mem_schedule hs) s.2
  have handed : ∀ u, (∃ s ∈ schedule check v.subfilters refused, u ∈ s.2) ∨
      u ∈ refusedAfter check v.subfilters refused → u ∈ refused ∨
        TooDeepIn (levels + 1) v (fromEntries check entries refused).1.found u := by
    intro u mem
    refine (mem_refused (fun e he refused => (each e he refused).kept) mem).imp_right ?_
    rintro ⟨s, hs, deep⟩
    exact deep.deeper found_iff hs
  -- What can be read is accepted below, unless the guard has stopped somewhere: a check below that
  -- is stopped would stop the check of `v` at a longer place.
  have accepts (unstopped : ∀ stop,
      ¬ Problem.StoppedAt (fromEntries check entries refused).1.found stop) :
      AcceptsBelow check (itemsIn entries) refused := by
    rw [← children]
    intro s hs f reads
    refine (below s hs).accepts reads fun stop stopped => unstopped (s.1.1 ++ stop) ?_
    exact (stoppedAt_iff found_iff).mpr ⟨s, hs, stop, rfl, stopped⟩
  -- Where exactly one part is asked for, both parts were accepted, so nothing was said of filters
  -- below, not by the guard either.
  have unstopped_of_asksHere (asks : AsksHere check entries refused) (stop : Place) :
      ¬ Problem.StoppedAt (fromEntries check entries refused).1.found stop := by
    rintro ⟨p, mem, -, isStop⟩
    have ofFilter := Complaint.ofFilter_of_isStop isStop
    rcases (tells.found_iff p ofFilter).mp mem with ⟨rfl, -⟩ | there
    · cases isStop
    · exact not_foundBelow_of_asksHere parts ends asks ofFilter there
  exact {
    ends := tells.ends
    asks := asks_of_each found_iff (fun s hs => (below s hs).asks)
      ⟨fun asks => ⟨(asksHere_iff sound (accepts (unstopped_of_asksHere asks)) seen).mp asks,
        unstopped_of_asksHere asks⟩,
      fun ⟨undecided, unstopped⟩ => (asksHere_iff sound (accepts unstopped) seen).mpr undecided⟩
    stops := stops_of_each found_iff (fun s hs => (below s hs).stops)
      fun s hs u mem => handed u (.inl ⟨s, hs, mem⟩)
    kept := fun u mem => handed u (.inr (by
      rw [children, ← (compositeIn_descends parts ends refused).refused_eq]
      exact mem))
    accepts := fun reads unstopped => fromEntries_of_reads sound (accepts unstopped) seen reads }

end

/-- Plain data is checked by the grammar, as far as the guard lets it: `Filter.checkIn` on it
`Follows`. The induction is on the levels, and not on the data, because what is refused on the way
is handed from one part of the data to the next. -/
theorem Filter.checkIn_follows {levels : Nat} {inside inside' : List Nat} {v : Value}
    (plain : v.IsPlain inside') (around : inside ⊆ inside') (refused : List Value) :
    Follows levels refused v (checkIn levels inside v refused) := by
  induction levels generalizing inside inside' v refused with
  | zero =>
      cases new : refused.any v.identical with
      | true => exact follows_of_again new
      | false => exact follows_zero (plain.isAmong around) new
  | succ levels ih =>
      have apart := plain.isAmong around
      cases new : refused.any v.identical with
      | true => exact follows_of_again new
      | false =>
          by_cases mapping : ∃ entries, v.content = .mapping entries
          -- Only a mapping is gone into. Its values are inside of the place of the data, which
          -- `checkIn` enters too.
          · obtain ⟨entries, seen⟩ := mapping
            obtain ⟨inner, more, place, parts⟩ := plain.of_mapping seen
            have below : v.place?.toList ++ inside ⊆ inner :=
              List.append_subset.mpr ⟨place, List.Subset.trans around more⟩
            rw [checkIn_of_mapping apart new seen]
            refine fromEntries_follows seen parts reads_of_checkIn fun e child refused => ?_
            rw [Value.subfilters, seen] at child
            obtain ⟨inner', deeper, plain'⟩ := plain_of_itemsIn parts e child
            exact ih plain' (List.Subset.trans below deeper) refused
          · exact follows_of_other apart new (fun entries seen => mapping ⟨entries, seen⟩)
              plain.content_ne_message

/-! ## What is accepted is not too deep -/

section

variable {check : Value → Descent (Filter Value)} {refused : List Value}

theorem Filter.exists_of_checkItems {items : List Value} {filters : List (Filter Value)}
    {index : Nat} (accepted : (checkItems check index items refused).1 = .ok filters) :
    ∀ v ∈ items, ∃ refused f, (check v refused).1 = .ok f := by
  induction items generalizing filters index refused with
  | nil => simp
  | cons v rest ih =>
      simp only [checkItems, Checked.and_eq_ok, Checked.under_eq_ok, Except.ok.injEq] at accepted
      obtain ⟨_, _, ⟨_, f, rfl, first, rfl⟩, later, rfl⟩ := accepted
      exact List.forall_mem_cons.mpr ⟨⟨refused, f, first⟩, ih later⟩

/-- Where a composite filter is accepted, so is the data for each filter in it. -/
theorem CompositeFilter.exists_of_descend? {v : Value} {y : Option (CompositeFilter Value)}
    (accepted : (descend? check v refused).1 = .ok y) :
    ∀ e ∈ v.compositeItems, ∃ refused f, (check e.2 refused).1 = .ok f := by
  intro e he
  unfold Value.compositeItems at he
  split at he
  · rename_i entries seen
    rw [descend?_eq_ok_iff] at accepted
    cases y with
    | none =>
        have nothing := Value.isNone_iff.mp accepted
        rw [seen] at nothing
        cases nothing
    | some c =>
        obtain message | ⟨seen', fields⟩ := accepted.2
        · rw [seen] at message
          cases message
        · obtain rfl := Value.mapping.inj (seen.symm.trans seen')
          obtain ⟨-, sequence, -⟩ := descend_eq_ok_iff.mp fields
          unfold itemsIn at he
          unfold Spelling.Reads at sequence
          split at he
          · rename_i given
            rw [given] at sequence
            obtain ⟨items, list, items_ok⟩ := Filter.checkSequence_eq_ok_iff.mp sequence
            obtain ⟨⟨_, w⟩, mem, rfl⟩ := List.mem_map.mp he
            obtain ⟨k, item, -⟩ := Place.mem_indexed_iff.mp mem
            rw [list, Option.getD_some] at item
            exact Filter.exists_of_checkItems items_ok w (List.mem_of_getElem? item)
          · cases he
  · cases he

/-- So is the data for each filter below a filter whose composite part is accepted. -/
theorem Filter.exists_of_composite {entries : List (Value × Value)}
    {y : Option (CompositeFilter Value)}
    (accepted : Field.compositeFilter.Reads (some none)
      (fun v y => (CompositeFilter.descend? check v refused).1 = .ok y) entries y) :
    ∀ e ∈ itemsIn entries, ∃ refused f, (check e.2 refused).1 = .ok f := by
  intro e he
  unfold itemsIn at he
  unfold Spelling.Reads at accepted
  split at he
  · rename_i given
    rw [given] at accepted
    obtain ⟨item, mem, rfl⟩ := List.mem_map.mp he
    exact CompositeFilter.exists_of_descend? accepted item mem
  · cases he

end

/-- What `checkIn` accepts is `Within` its levels, also where it is no plain data. -/
theorem Filter.within_of_checkIn {levels : Nat} {inside : List Nat} {v : Value}
    {refused : List Value} {f : Filter Value}
    (accepted : (checkIn levels inside v refused).1 = .ok f) : v.Within levels := by
  induction levels generalizing inside v refused f with
  | zero =>
      rw [checkIn] at accepted
      split at accepted <;> cases accepted
  | succ levels ih =>
      refine Value.within_succ_iff.mpr fun e child => ?_
      obtain ⟨-, seen | ⟨entries, x, y, seen, -, composite, -⟩⟩ :=
        checkIn_succ_eq_ok_iff.mp accepted
      · rw [Value.subfilters, seen] at child
        cases child
      · rw [Value.subfilters, seen] at child
        obtain ⟨refused, f, ok⟩ := exists_of_composite composite e child
        exact ih ok

/-! ## Validation -/

/-- Problems that are told as errors of a value ask for exactly one part. -/
theorem Complaint.code_eq_valueError_iff (c : Complaint) :
    c.code = "value_error" ↔ c = .exactlyOneExpected := by
  cases c <;> simp [code]

/-- Problems tell an error of a value at a place. In the words of the messages that is the code
`value_error`. -/
def Problem.ValueErrorAt (problems : List Problem) (place : Place) : Prop :=
  ∃ p ∈ problems, p.place = place ∧ p.complaint.code = "value_error"

theorem Problem.valueErrorAt_iff {problems : List Problem} {place : Place} :
    ValueErrorAt problems place ↔ ⟨place, .exactlyOneExpected⟩ ∈ problems := by
  simp only [ValueErrorAt, Complaint.code_eq_valueError_iff]
  constructor
  · rintro ⟨⟨_, _⟩, mem, rfl, rfl⟩
    exact mem
  · exact fun mem => ⟨_, mem, rfl, rfl⟩

/-- Around a filter there are filters with any number fewer around them. So where one is too deep,
there is one that is just too deep. -/
theorem Value.FilterAt.around {v w : Value} {depth : Nat} {place : Place}
    (h : v.FilterAt depth place w) {levels : Nat} (le : levels ≤ depth) :
    ∃ place' w', v.FilterAt levels place' w' := by
  induction h generalizing levels with
  | here v =>
      obtain rfl := Nat.le_zero.mp le
      exact ⟨[], v, .here v⟩
  | deeper child _ ih =>
      cases levels with
      | zero => exact ⟨[], _, .here _⟩
      | succ levels =>
          obtain ⟨place', w', inside⟩ := ih (Nat.le_of_succ_le_succ le)
          exact ⟨_, w', .deeper child inside⟩

section

variable {levels : Nat} {v : Value} {problems : List Problem}
  (stops : Filter.Stops levels [] v problems)

include stops

/-- Where nothing has been refused before, the guard stops first at a filter that is `tooDeep`: what
is `identical` to a refused filter comes after it. -/
theorem Filter.Stops.exists_tooDeep {stop : Place} (stopped : Problem.StoppedAt problems stop) :
    ∃ place, ⟨place, .tooDeep⟩ ∈ problems := by
  obtain ⟨⟨place, complaint⟩, mem, -, isStop⟩ := stopped
  cases complaint with
  | tooDeep => exact ⟨place, mem⟩
  | recursive =>
      obtain ⟨_, _, _, _, _, before | ⟨deep, mem', -⟩⟩ := stops.recursive mem
      · cases before
      · exact ⟨deep, mem'⟩
  | _ => cases isStop

/-- So it stops nowhere just if no filter is too deep. -/
theorem Filter.Stops.within_iff :
    v.Within levels ↔ ∀ place, (⟨place, .tooDeep⟩ : Problem) ∉ problems := by
  constructor
  · intro within place deep
    obtain ⟨u, found⟩ := stops.tooDeep deep
    exact Nat.lt_irrefl _ (within _ _ _ found)
  · intro none depth place w found
    by_contra deep
    obtain ⟨place', w', around⟩ := found.around (Nat.le_of_not_lt deep)
    obtain ⟨stop, stopped, -⟩ := stops.stopped around
    obtain ⟨place, mem⟩ := stops.exists_tooDeep stopped
    exact none place mem

end

/-- Plain data is accepted for a filter just if `Filter.Reads` reads it as one and it has no more
filters inside each other than there are levels, and the result is what is read.

If it is refused, then by a list of problems. An error of a value is told at those filters that are
undecided, both of whose parts are acceptable where both or neither are there, and nowhere else.
The exception are the filters at, around and below those that the recursion guard stops at: these
are `Filter.Stops`, and among them is one that is too deep as soon as any filter in the data is.
What the guard does has to be part of the statement, since an undecided filter that is too deep is
never asked for its parts (`Filter.validate_nested`). -/
theorem Filter.validate_plain {d : Value} (plain : d.IsPlain []) :
    (∀ m, Message.validate .filter d = .ok m ↔
      ∃ f, m = .filter f ∧ Reads d f ∧ d.Within Nesting.limit) ∧
    ∀ e, Message.validate .filter d = .error e →
      ∃ problems, e = .invalid .filter problems ∧ problems ≠ [] ∧
        (∀ {depth place w}, d.FilterAt depth place w →
          (Problem.ValueErrorAt problems place ↔
            Undecided w ∧ Problem.Unstopped problems place)) ∧
        (∀ {place}, Problem.ValueErrorAt problems place → ∃ depth w, d.FilterAt depth place w) ∧
        Stops Nesting.limit [] d problems ∧
        (d.Within Nesting.limit → ∀ stop, ¬ Problem.StoppedAt problems stop) ∧
        (¬ d.Within Nesting.limit → ∃ place, ⟨place, .tooDeep⟩ ∈ problems) := by
  have validated : Message.validate .filter d =
      Checked.orInvalid .filter ((checkIn Nesting.limit [] d []).1.map Message.filter) := rfl
  have follows : Follows Nesting.limit [] d (checkIn Nesting.limit [] d []) :=
    checkIn_follows plain (List.Subset.refl _) []
  -- Nothing has been refused at first, so the guard has to stop at a filter that is too deep before
  -- it can stop anywhere else.
  have unstopped (within : d.Within Nesting.limit) (stop : Place) :
      ¬ Problem.StoppedAt (checkIn Nesting.limit [] d []).1.found stop := by
    intro stopped
    obtain ⟨place, deep⟩ := follows.stops.exists_tooDeep stopped
    exact follows.stops.within_iff.mp within place deep
  constructor
  · intro m
    rw [validated, Checked.orInvalid_eq_ok_iff]
    constructor
    · intro accepted
      cases result : (checkIn Nesting.limit [] d []).1 with
      | error refusal =>
          rw [result] at accepted
          cases accepted
      | ok f =>
          rw [result] at accepted
          exact ⟨f, (Except.ok.inj accepted).symm, reads_of_checkIn result,
            within_of_checkIn result⟩
    · rintro ⟨f, rfl, reads, within⟩
      rw [follows.accepts reads (unstopped within)]
      rfl
  · intro e refused
    rw [validated, (follows.ends.map Message.filter).orInvalid_eq_error_iff,
      Checked.found_map] at refused
    obtain ⟨nonempty, rfl⟩ := refused
    refine ⟨_, rfl, nonempty, fun {depth place w} there => ?_, fun {place} told => ?_,
      follows.stops, unstopped, fun deep => ?_⟩
    · rw [Problem.valueErrorAt_iff, follows.asks]
      constructor
      -- There is one filter at a place, so it is the one in question.
      · rintro ⟨_, w', there', undecided, unstopped⟩
        exact ⟨there'.unique there ▸ undecided, unstopped⟩
      · exact fun asks => ⟨depth, w, there, asks⟩
    · obtain ⟨depth, w, there, -⟩ := (follows.asks place).mp (Problem.valueErrorAt_iff.mp told)
      exact ⟨depth, w, there⟩
    · by_contra nowhere
      exact deep (follows.stops.within_iff.mpr fun place mem => nowhere ⟨place, mem⟩)

/-- Data for a filter inside of a number of filters, where the innermost has no part. -/
def Filter.nested : Nat → Value
  | 0 => .ofTexts []
  | levels + 1 => .ofTexts [("compositeFilter", .ofTexts [("filters", .list [nested levels])])]

/-- The place of the innermost filter. -/
def Filter.innermost : Nat → Place
  | 0 => []
  | levels + 1 => [.key "compositeFilter", .key "filters", .index 0] ++ innermost levels

theorem Filter.isPlain_nested (levels : Nat) : (nested levels).IsPlain [] := by
  induction levels with
  | zero => exact Value.isPlain_ofTexts (by simp)
  | succ levels ih =>
      refine Value.isPlain_ofTexts (List.forall_mem_singleton.mpr ?_)
      exact Value.isPlain_ofTexts (List.forall_mem_singleton.mpr (.list (by simpa using ih)))

theorem Filter.filterAt_nested (levels : Nat) :
    (nested levels).FilterAt levels (innermost levels) (.ofTexts []) := by
  induction levels with
  | zero => exact .here _
  | succ levels ih => exact .deeper (List.mem_singleton.mpr rfl) ih

/-- Data that combines filters and says nothing else is checked item by item: there is no operator
to be refused, and no property filter beside the combination. -/
theorem Filter.checkIn_ofItems (levels : Nat) (inside : List Nat) (items : List Value) :
    checkIn (levels + 1) inside
        (.ofTexts [("compositeFilter", .ofTexts [("filters", .list items)])]) [] =
      let filters := checkItems (checkIn levels inside) 0 items []
      let composite := ((Checked.of (CompositeFilter.mk · · none)).and (.ok .and)).and
        (filters.1.under (.key "filters"))
      (ofCheckedParts (.ok none)
        (Checked.under (.key "compositeFilter") (composite.map some)), filters.2) := rfl

/-- The innermost filter is too deep if there are as many around it as there are levels. -/
theorem Filter.checkIn_nested (levels : Nat) (inside : List Nat) :
    checkIn levels inside (nested levels) [] =
      (.error (.problems [⟨innermost levels, .tooDeep⟩]), [.ofTexts []]) := by
  induction levels generalizing inside with
  | zero => rfl
  | succ levels ih =>
      have items : checkItems (checkIn levels inside) 0 [nested levels] [] =
          (.error (.problems [⟨.index 0 :: innermost levels, .tooDeep⟩]), [.ofTexts []]) := by
        rw [checkItems, ih]
        rfl
      rw [nested, checkIn_ofItems, items]
      rfl

/-- Data for two filters, the first of which has no part, while the second has as many others inside
of it that the innermost is too deep. -/
def Filter.halfDeep (levels : Nat) : Value :=
  .ofTexts [("compositeFilter", .ofTexts [("filters", .list [.ofTexts [], nested levels])])]

/-- The problems of such data: each filter without parts is told of in its own way. -/
def Filter.halfDeepProblems (levels : Nat) : List Problem :=
  [⟨[.key "compositeFilter", .key "filters", .index 0], .exactlyOneExpected⟩,
    ⟨[.key "compositeFilter", .key "filters", .index 1] ++ innermost levels, .tooDeep⟩]

theorem Filter.checkIn_halfDeep (levels : Nat) (inside : List Nat) :
    checkIn (levels + 2) inside (halfDeep (levels + 1)) [] =
      (.error (.problems (halfDeepProblems (levels + 1))), [.ofTexts []]) := by
  have first : checkIn (levels + 1) inside (.ofTexts []) [] =
      (.complain .exactlyOneExpected, []) := rfl
  have items : checkItems (checkIn (levels + 1) inside) 0 [.ofTexts [], nested (levels + 1)] [] =
      (.error (.problems [⟨[.index 0], .exactlyOneExpected⟩,
        ⟨.index 1 :: innermost (levels + 1), .tooDeep⟩]), [.ofTexts []]) := by
    simp only [checkItems, first, checkIn_nested]
    rfl
  rw [halfDeep, checkIn_ofItems, items]
  rfl

theorem Filter.undecided_empty : Undecided (.ofTexts []) :=
  ⟨[], none, none, rfl, ⟨rfl, rfl⟩, rfl⟩

/-- Two filters without parts: the one in reach is told `exactlyOneExpected`, and the other
`tooDeep`. -/
theorem Filter.validate_plain_halfDeep :
    (halfDeep 254).IsPlain [] ∧ ¬ (halfDeep 254).Within Nesting.limit ∧
      Message.validate .filter (halfDeep 254) = .error (.invalid .filter (halfDeepProblems 254)) ∧
      Undecided (.ofTexts []) ∧
      Problem.Unstopped (halfDeepProblems 254)
        [.key "compositeFilter", .key "filters", .index 0] ∧
      ¬ Problem.ValueErrorAt (halfDeepProblems 254)
        ([.key "compositeFilter", .key "filters", .index 1] ++ innermost 254) := by
  have plain : (halfDeep 254).IsPlain [] := by
    refine Value.isPlain_ofTexts (List.forall_mem_singleton.mpr ?_)
    refine Value.isPlain_ofTexts (List.forall_mem_singleton.mpr (.list ?_))
    simp only [List.forall_mem_cons, List.not_mem_nil, false_imp_iff, implies_true, and_true]
    exact ⟨Value.isPlain_ofTexts (by simp), isPlain_nested 254⟩
  have refused : Message.validate .filter (halfDeep 254) =
      Checked.orInvalid .filter ((checkIn (253 + 2) [] (halfDeep 254) []).1.map Message.filter) :=
    rfl
  rw [checkIn_halfDeep] at refused
  have near : (halfDeep 254).FilterAt 1 [.key "compositeFilter", .key "filters", .index 0]
      (.ofTexts []) := by
    have child : ([.key "compositeFilter", .key "filters", .index 0], .ofTexts []) ∈
        (halfDeep 254).subfilters := List.mem_cons_self
    exact .deeper child (.here _)
  have far : (halfDeep 254).FilterAt 255
      ([.key "compositeFilter", .key "filters", .index 1] ++ innermost 254) (.ofTexts []) := by
    have child : ([.key "compositeFilter", .key "filters", .index 1], nested 254) ∈
        (halfDeep 254).subfilters := List.mem_cons_of_mem _ List.mem_cons_self
    exact .deeper child (filterAt_nested 254)
  obtain ⟨problems, same, -, asks, -, -, within, -⟩ := (validate_plain plain).2 _ refused
  obtain rfl := (Failure.invalid.inj same).2
  have deep : Problem.StoppedAt (halfDeepProblems 254)
      ([.key "compositeFilter", .key "filters", .index 1] ++ innermost 254) :=
    ⟨_, List.mem_cons_of_mem _ List.mem_cons_self, rfl, rfl⟩
  refine ⟨plain, fun fits => within fits _ deep, refused, undecided_empty, ?_, fun told => ?_⟩
  · exact ((asks near).mp ⟨_, List.mem_cons_self, rfl, rfl⟩).2
  · exact (((asks far).mp told).2 _ deep).1 (List.prefix_refl _)

/-- The filter at the end is `Undecided`, but it is `tooDeep`, and so no error of a value is
told. -/
theorem Filter.validate_nested :
    (nested 255).IsPlain [] ∧ (nested 255).FilterAt 255 (innermost 255) (.ofTexts []) ∧
      Undecided (.ofTexts []) ∧
      Message.validate .filter (nested 255) =
        .error (.invalid .filter [⟨innermost 255, .tooDeep⟩]) ∧
      ¬ Problem.ValueErrorAt [⟨innermost 255, .tooDeep⟩] (innermost 255) := by
  have refused : Message.validate .filter (nested 255) =
      Checked.orInvalid .filter ((checkIn 255 [] (nested 255) []).1.map Message.filter) := rfl
  rw [checkIn_nested] at refused
  refine ⟨isPlain_nested 255, filterAt_nested 255, undecided_empty, refused, ?_⟩
  rw [Problem.valueErrorAt_iff]
  simp

end EntityQuery
