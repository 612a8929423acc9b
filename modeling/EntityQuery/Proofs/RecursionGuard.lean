import EntityQuery.Proofs.FilterDescent

/-!
# Where the recursion guard stops

The guard stops at a filter with too many others around it, and from then on at whatever is the same
as one that it has stopped at. A filter that it stops at is not looked at, so exactly one part is
asked for neither there nor below, and not around it either, where a part is not acceptable.

* `Problem.StoppedAt` reads the guard off the problems, and `Problem.Unstopped` is a place that it
  leaves alone.
* `Filter.Stops` says where it stops, and `Filter.Asks` where exactly one part is asked for.
  `Filter.stops_of_each` and `Filter.asks_of_each` carry them from the data directly below to the
  data around it. They are the step of the induction on levels.
-/

namespace EntityQuery

/-! ## Where the guard stops -/

/-- The guard has stopped at a place: one of the complaints with `isStop` is there. -/
def Problem.StoppedAt (problems : List Problem) (place : Place) : Prop :=
  ∃ p ∈ problems, p.place = place ∧ p.complaint.isStop = true

/-- The guard has stopped neither at a place nor around it nor below it. -/
def Problem.Unstopped (problems : List Problem) (place : Place) : Prop :=
  ∀ stop, StoppedAt problems stop → ¬ stop <+: place ∧ ¬ place <+: stop

/-- A filter that is told to be too deep, with `levels` filters around it. -/
def Filter.TooDeepIn (levels : Nat) (v : Value) (problems : List Problem) (u : Value) : Prop :=
  ∃ place, ⟨place, .tooDeep⟩ ∈ problems ∧ v.FilterAt levels place u

/-- Exactly one part is asked for where data is `Undecided` and the place is `Unstopped`: the data
has been looked at, and so has all below it. Where the guard has stopped below a filter, its
composite part is not acceptable, so nothing is asked. -/
def Filter.Asks (v : Value) (problems : List Problem) : Prop :=
  ∀ place, ⟨place, .exactlyOneExpected⟩ ∈ problems ↔
    ∃ depth w, v.FilterAt depth place w ∧ Undecided w ∧ Problem.Unstopped problems place

/-- What the guard does with data of which some is refused already: it stops at filters with
`levels` others around them, and at what is `identical` to one that it has stopped at before.
Nothing that deep is looked at. -/
structure Filter.Stops (levels : Nat) (refused : List Value) (v : Value)
    (problems : List Problem) : Prop where
  tooDeep : ∀ {place}, ⟨place, .tooDeep⟩ ∈ problems → ∃ u, v.FilterAt levels place u
  recursive : ∀ {place}, ⟨place, .recursive⟩ ∈ problems →
    ∃ depth w u, v.FilterAt depth place w ∧ w.identical u = true ∧
      (u ∈ refused ∨ TooDeepIn levels v problems u)
  stopped : ∀ {place w}, v.FilterAt levels place w →
    ∃ stop, Problem.StoppedAt problems stop ∧ stop <+: place

section

variable {levels : Nat} {check : Value → Descent (Filter Value)} {children : List (Place × Value)}
  {refused : List Value}

/-- What is refused by the time of a check, or after all of them, was refused before them or is told
to be too deep by one of them. The induction is on the data, as one check hands on to the next. -/
theorem Filter.mem_refused
    (kept : ∀ e ∈ children, ∀ refused, ∀ u ∈ (check e.2 refused).2,
      u ∈ refused ∨ TooDeepIn levels e.2 (check e.2 refused).1.found u) {u : Value}
    (mem : (∃ s ∈ schedule check children refused, u ∈ s.2) ∨
      u ∈ refusedAfter check children refused) :
    u ∈ refused ∨ ∃ s ∈ schedule check children refused,
      TooDeepIn levels s.1.2 (check s.1.2 s.2).1.found u := by
  induction children generalizing refused with
  | nil => simpa [schedule, refusedAfter] using mem
  | cons e rest ih =>
      obtain ⟨first, others⟩ := List.forall_mem_cons.mp kept
      simp only [schedule, refusedAfter, List.exists_mem_cons_iff, or_assoc] at mem ⊢
      rcases mem with before | later
      · exact .inl before
      · rcases ih others later with handed | deep
        · exact (first refused u handed).imp_right .inl
        · exact .inr (.inr deep)

end

section

variable {levels : Nat} {check : Value → Descent (Filter Value)} {v : Value}
  {refused : List Value} {problems : List Problem} {had : Prop}

/-- One way leads to one check, by `Value.nodup_subfilters`. -/
theorem Filter.eq_of_mem_schedule {s s' : (Place × Value) × List Value}
    (h : s ∈ schedule check v.subfilters refused) (h' : s' ∈ schedule check v.subfilters refused)
    (same : s.1.1 = s'.1.1) : s = s' := by
  refine List.inj_on_of_nodup_map (f := fun s => s.1.1) ?_ h h' same
  have ways : (schedule check v.subfilters refused).map (fun s => s.1.1) =
      v.subfilters.map Prod.fst :=
    List.map_map.symm.trans (congrArg (List.map Prod.fst) map_fst_schedule)
  rw [ways]
  exact v.nodup_subfilters

/-! ### What is said of some data, from what is said of the data below it -/

variable (found_iff : ∀ p, p.complaint.ofFilter = true → (p ∈ problems ↔
  (p = ⟨[], .exactlyOneExpected⟩ ∧ had) ∨ Filter.FoundBelow check v.subfilters refused p))

include found_iff

theorem Filter.stoppedAt_iff {stop : Place} : Problem.StoppedAt problems stop ↔
    ∃ s ∈ schedule check v.subfilters refused, ∃ rest, stop = s.1.1 ++ rest ∧
      Problem.StoppedAt (check s.1.2 s.2).1.found rest := by
  constructor
  · rintro ⟨p, mem, rfl, isStop⟩
    rcases (found_iff p (Complaint.ofFilter_of_isStop isStop)).mp mem with ⟨rfl, -⟩ | below
    · cases isStop
    · obtain ⟨s, hs, q, found, rfl⟩ := below
      exact ⟨s, hs, q.place, rfl, q, found, rfl, isStop⟩
  · rintro ⟨s, hs, _, rfl, q, found, rfl, isStop⟩
    refine ⟨q.below s.1.1, ?_, rfl, isStop⟩
    exact (found_iff (q.below s.1.1) (Complaint.ofFilter_of_isStop isStop)).mpr
      (.inr ⟨s, hs, q, found, rfl⟩)

/-- `Unstopped` at a place is up to the check that the place belongs to, since the ways to all
checks are different and of one length. -/
theorem Filter.unstopped_iff {s : (Place × Value) × List Value}
    (hs : s ∈ schedule check v.subfilters refused) {rest : Place} :
    Problem.Unstopped problems (s.1.1 ++ rest) ↔
      Problem.Unstopped (check s.1.2 s.2).1.found rest := by
  constructor
  · intro unstopped stop stopped
    have apart := unstopped (s.1.1 ++ stop)
      ((stoppedAt_iff found_iff).mpr ⟨s, hs, stop, rfl, stopped⟩)
    rwa [List.prefix_append_right_inj, List.prefix_append_right_inj] at apart
  · intro unstopped stop stopped
    obtain ⟨s', hs', stop, rfl, there⟩ := (stoppedAt_iff found_iff).mp stopped
    have length : s'.1.1.length = s.1.1.length :=
      (Value.length_of_mem_subfilters (mem_of_mem_schedule hs')).trans
        (Value.length_of_mem_subfilters (mem_of_mem_schedule hs)).symm
    by_cases same : s'.1.1 = s.1.1
    · obtain rfl := eq_of_mem_schedule hs' hs same
      rw [List.prefix_append_right_inj, List.prefix_append_right_inj]
      exact unstopped stop there
    · refine ⟨fun ⟨more, joined⟩ => same ?_, fun ⟨more, joined⟩ => same ?_⟩
      · rw [List.append_assoc] at joined
        exact List.append_inj_left joined length
      · rw [List.append_assoc] at joined
        exact (List.append_inj_left joined length.symm).symm

/-- The step of `Asks`: what holds of the checks below holds of the data around them, if it is asked
itself when it should be. -/
theorem Filter.asks_of_each
    (each : ∀ s ∈ schedule check v.subfilters refused, Asks s.1.2 (check s.1.2 s.2).1.found)
    (had_iff : had ↔ Undecided v ∧ ∀ stop, ¬ Problem.StoppedAt problems stop) :
    Asks v problems := by
  intro place
  rw [found_iff _ rfl, had_iff]
  constructor
  · rintro (⟨same, undecided, unstopped⟩ | ⟨s, hs, q, found, same⟩)
    · obtain rfl := (Problem.mk.inj same).1
      exact ⟨0, v, .here v, undecided, fun stop stopped => absurd stopped (unstopped stop)⟩
    · obtain ⟨rest, _⟩ := q
      obtain ⟨rfl, rfl⟩ := Problem.mk.inj same
      obtain ⟨depth, w, inside, undecided, unstopped⟩ := (each s hs rest).mp found
      exact ⟨depth + 1, w, .deeper (mem_of_mem_schedule hs) inside, undecided,
        (unstopped_iff found_iff hs).mpr unstopped⟩
  · rintro ⟨depth, w, found, undecided, unstopped⟩
    cases found with
    | here =>
        exact .inl ⟨rfl, undecided, fun stop stopped => (unstopped stop stopped).2 List.nil_prefix⟩
    | @deeper _ _ _ _ rest _ child inside =>
        obtain ⟨s, hs, same⟩ := @exists_mem_schedule check _ refused _ child
        obtain ⟨⟨_, _⟩, given⟩ := s
        obtain ⟨rfl, rfl⟩ := Prod.mk.inj same
        have unstopped := (unstopped_iff found_iff hs).mp unstopped
        exact .inr ⟨_, hs, _, (each _ hs rest).mpr ⟨_, w, inside, undecided, unstopped⟩, rfl⟩

theorem Filter.TooDeepIn.deeper {s : (Place × Value) × List Value}
    (hs : s ∈ schedule check v.subfilters refused) {u : Value}
    (h : TooDeepIn levels s.1.2 (check s.1.2 s.2).1.found u) :
    TooDeepIn (levels + 1) v problems u := by
  obtain ⟨place, deep, found⟩ := h
  exact ⟨s.1.1 ++ place, (found_iff _ rfl).mpr (.inr ⟨s, hs, _, deep, rfl⟩),
    .deeper (mem_of_mem_schedule hs) found⟩

/-- The step of `Stops`. What a check is handed as refused comes from before or from the checks
before it, and `mem_refused` tells which. -/
theorem Filter.stops_of_each
    (each : ∀ s ∈ schedule check v.subfilters refused,
      Stops levels s.2 s.1.2 (check s.1.2 s.2).1.found)
    (handed : ∀ s ∈ schedule check v.subfilters refused, ∀ u ∈ s.2,
      u ∈ refused ∨ TooDeepIn (levels + 1) v problems u) :
    Stops (levels + 1) refused v problems where
  tooDeep := by
    intro place deep
    obtain ⟨same, -⟩ | ⟨s, hs, ⟨rest, _⟩, found, same⟩ := (found_iff _ rfl).mp deep
    · cases same
    · obtain ⟨rfl, rfl⟩ := Problem.mk.inj same
      obtain ⟨u, inside⟩ := (each s hs).tooDeep found
      exact ⟨u, .deeper (mem_of_mem_schedule hs) inside⟩
  recursive := by
    intro place again
    obtain ⟨same, -⟩ | ⟨s, hs, ⟨rest, _⟩, found, same⟩ := (found_iff _ rfl).mp again
    · cases same
    · obtain ⟨rfl, rfl⟩ := Problem.mk.inj same
      -- What the check was handed as refused was refused before all of them, or by one before it.
      obtain ⟨depth, w, u, inside, identical, before | deep⟩ := (each s hs).recursive found
      · exact ⟨_, w, u, .deeper (mem_of_mem_schedule hs) inside, identical, handed s hs u before⟩
      · exact ⟨_, w, u, .deeper (mem_of_mem_schedule hs) inside, identical,
          .inr (deep.deeper found_iff hs)⟩
  stopped := by
    intro place w found
    cases found with
    | @deeper _ _ _ _ rest _ child inside =>
        obtain ⟨s, hs, same⟩ := @exists_mem_schedule check _ refused _ child
        obtain ⟨⟨_, _⟩, given⟩ := s
        obtain ⟨rfl, rfl⟩ := Prod.mk.inj same
        obtain ⟨stop, stopped, around⟩ := (each _ hs).stopped inside
        exact ⟨_, (stoppedAt_iff found_iff).mpr ⟨_, hs, stop, rfl, stopped⟩,
          (List.prefix_append_right_inj _).mpr around⟩

end

end EntityQuery
