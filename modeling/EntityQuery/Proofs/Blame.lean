import EntityQuery.Proofs.Compilation

/-!
# Which failures blame a filter unit

Two failures name the position of a filter unit. Only the compilation of a builder's units gives
them; whatever is described or checked on the way fails for other reasons.

* `Failure.unitIndex?` is the position that a failure names. One that names none is `Blameless`.
* `FailsOnly` says of an outcome that it is no failure or one of some kind.
* `Value.describe_blameless` goes through descriptions, with a case for every constructor, and
  `CompositeFilter.make_blameless` and `QueryMessage.make_blameless` go through the checks.
-/

namespace EntityQuery

open Describe (Spot Style)

/-- The position of the filter unit that a failure blames. Only `notCompilable` and `notFilter`
carry one. -/
def Failure.unitIndex? : Failure → Option Nat
  | .notCompilable _ index => some index
  | .notFilter _ index _ => some index
  | _ => none

/-- A failure that blames no filter unit. That is what everything but `compileUnits` fails with,
which the rest of this module shows function by function. -/
def Failure.Blameless (e : Failure) : Prop := e.unitIndex? = none

theorem Failure.Blameless.not_blamed {e : Failure} (h : e.Blameless) (index : Nat) :
    e.unitIndex? ≠ some index := by
  intro blamed
  rw [h] at blamed
  cases blamed

/-- An outcome that is no failure, or one of some kind. It is closed under the monad operations, so
the lemmas below follow the definitions they are about. -/
def FailsOnly {ε α : Type} (cause : ε → Prop) : Except ε α → Prop
  | .ok _ => True
  | .error e => cause e

theorem FailsOnly.bind {ε α β : Type} {cause : ε → Prop} {x : Except ε α} {f : α → Except ε β}
    (first : FailsOnly cause x) (second : ∀ a, FailsOnly cause (f a)) :
    FailsOnly cause (x >>= f) := by
  cases x with
  | ok a => exact second a
  | error e => exact first

theorem FailsOnly.map {ε α β : Type} {cause : ε → Prop} {x : Except ε α} (h : FailsOnly cause x)
    (f : α → β) : FailsOnly cause (f <$> x) := by
  cases x with
  | ok a => trivial
  | error e => exact h

theorem FailsOnly.mono {ε α : Type} {cause cause' : ε → Prop} (weaken : ∀ e, cause e → cause' e)
    {x : Except ε α} (h : FailsOnly cause x) : FailsOnly cause' x := by
  cases x with
  | ok a => trivial
  | error e => exact weaken e h

/-! ## Descriptions -/

theorem FailsOnly.once {cause : Failure → Prop} {describe : List Spot → Except Failure String}
    {entered : List Spot} {spot : Option Spot} {ellipsis : String}
    (each : ∀ entered, FailsOnly cause (describe entered)) :
    FailsOnly cause (Describe.once entered spot ellipsis describe) := by
  unfold Describe.once
  cases spot with
  | none => exact each entered
  | some spot =>
      dsimp only
      split
      · trivial
      · exact each _

theorem writeInteger_blameless (n : Int) : FailsOnly Failure.Blameless (writeInteger n) := by
  unfold writeInteger
  split
  · trivial
  · exact rfl

theorem Describe.optionalInteger_blameless (n : Option Int) :
    FailsOnly Failure.Blameless (optionalInteger n) := by
  cases n with
  | none => trivial
  | some n => exact writeInteger_blameless n

mutual

theorem Value.describeIn_blameless (style : Style) (entered : List Spot) (place : Option Nat) :
    (v : Value) → FailsOnly Failure.Blameless (v.describeIn style entered place)
  | .none | .bool _ | .float _ | .text _ | .bytes _ | .member _ => trivial
  | .answering .. | .giving .. => trivial
  | .int n => writeInteger_blameless n
  | .list items | .tuple items =>
      .once fun entered => (describeItems_blameless entered items).bind fun _ => trivial
  | .mapping entries =>
      .once fun entered => (describeEntries_blameless entered entries).bind fun _ => trivial
  | .object number look => Value.describeIn_blameless style entered (some number) (look ())
  | .unseen => rfl
  | .key a b | .order a b | .config a b =>
      .once fun entered =>
        (Value.describeIn_blameless .described entered Option.none a).bind fun _ =>
        (Value.describeIn_blameless .described entered Option.none b).bind fun _ => trivial
  | .comparison _ _ property op operand =>
      (Value.describeIn_blameless .described entered Option.none property).bind fun _ =>
      (describeOperator_blameless entered op).bind fun _ =>
      (Value.describeIn_blameless .described entered Option.none operand).bind fun _ => trivial
  | .combination _ op parts =>
      (describeItems_blameless entered parts).bind fun _ =>
      (describeOperator_blameless entered op).bind fun _ => trivial
  | .group property =>
      .once fun entered =>
        (Value.describeIn_blameless .described entered Option.none property).bind fun _ => trivial
  | .message m => (describeMessage_blameless entered m).bind fun _ => trivial
  | .query id state => describeState_blameless entered id state
  | .recorder _ v | .scoped _ v =>
      (Value.describeIn_blameless .described entered Option.none v).bind fun _ => trivial
termination_by structural v => v

theorem describeOperator_blameless (entered : List Spot) :
    (v : Value) → FailsOnly Failure.Blameless (describeOperator entered v)
  | .member _ => trivial
  | .comparison _ _ _ _ operand => Value.describeIn_blameless .displayed entered Option.none operand
  | .message (.propertyFilter ⟨_, _, value, _⟩) =>
      .once fun entered => (describeMapping_blameless entered value).bind fun _ => trivial
  | .object _ look => describeOperator_blameless entered (look ())
  | .none | .bool _ | .int _ | .float _ | .text _ | .bytes _ | .list _ | .tuple _ | .mapping _
  | .unseen | .key .. | .combination .. | .order .. | .group _ | .config .. | .query ..
  | .recorder .. | .answering .. | .scoped .. | .giving .. | .message .bare
  | .message (.kindExpression _) | .message (.propertyReference _) | .message (.projection _)
  | .message (.propertyOrder _) | .message (.compositeFilter _) | .message (.filter _)
  | .message (.query _) | .message (.partitionId _) | .message (.request _) => rfl
termination_by structural v => v

theorem describeItems_blameless (entered : List Spot) :
    (items : List Value) → FailsOnly Failure.Blameless (describeItems entered items)
  | [] => trivial
  | v :: rest =>
      (Value.describeIn_blameless .described entered Option.none v).bind fun _ =>
      (describeItems_blameless entered rest).bind fun _ => trivial
termination_by structural items => items

theorem describeEntries_blameless (entered : List Spot) :
    (entries : List (Value × Value)) →
      FailsOnly Failure.Blameless (describeEntries entered entries)
  | [] => trivial
  | (k, v) :: rest =>
      (Value.describeIn_blameless .described entered Option.none k).bind fun _ =>
      (Value.describeIn_blameless .described entered Option.none v).bind fun _ =>
      (describeEntries_blameless entered rest).bind fun _ => trivial
termination_by structural entries => entries

theorem describeMapping_blameless (entered : List Spot) :
    (entries : List (String × Value)) →
      FailsOnly Failure.Blameless (describeMapping entered entries)
  | [] => trivial
  | (_, v) :: rest =>
      (Value.describeIn_blameless .described entered Option.none v).bind fun _ =>
      (describeMapping_blameless entered rest).bind fun _ => trivial
termination_by structural entries => entries

theorem describePropertyFilter_blameless (entered : List Spot) :
    (m : PropertyFilter Value) → FailsOnly Failure.Blameless (describePropertyFilter entered m)
  | ⟨_, _, value, _⟩ =>
      FailsOnly.bind (.once fun entered =>
        (describeMapping_blameless entered value).bind fun _ => trivial) fun _ => trivial
termination_by structural m => m

theorem describeFilter_blameless (entered : List Spot) :
    (f : Filter Value) → FailsOnly Failure.Blameless (describeFilter entered f)
  | .property filter => (describePropertyFilter_blameless entered filter).bind fun _ => trivial
  | .composite _ filters _ =>
      FailsOnly.bind (.once fun entered =>
        (describeFilters_blameless entered filters).bind fun _ => trivial) fun _ => trivial
termination_by structural f => f

theorem describeFilters_blameless (entered : List Spot) :
    (filters : List (Filter Value)) →
      FailsOnly Failure.Blameless (describeFilters entered filters)
  | [] => trivial
  | f :: rest =>
      (describeFilter_blameless entered f).bind fun _ =>
      (describeFilters_blameless entered rest).bind fun _ => trivial
termination_by structural filters => filters

theorem describeFilter?_blameless (entered : List Spot) :
    (filter : Option (Filter Value)) →
      FailsOnly Failure.Blameless (describeFilter? entered filter)
  | Option.none => trivial
  | some f => (describeFilter_blameless entered f).bind fun _ => trivial
termination_by structural filter => filter

theorem describeQueryMessage_blameless (entered : List Spot) :
    (m : QueryMessage Value) → FailsOnly Failure.Blameless (describeQueryMessage entered m)
  | ⟨_, _, filter, _, _, _, limit, offset⟩ =>
      (describeFilter?_blameless entered filter).bind fun _ =>
      (Describe.optionalInteger_blameless limit).bind fun _ =>
      (writeInteger_blameless offset).bind fun _ => trivial
termination_by structural m => m

theorem describeMessage_blameless (entered : List Spot) :
    (m : Message Value) → FailsOnly Failure.Blameless (describeMessage entered m)
  | .bare | .kindExpression _ | .propertyReference _ | .projection _ | .propertyOrder _
  | .partitionId _ => trivial
  | .propertyFilter m => describePropertyFilter_blameless entered m
  | .compositeFilter ⟨_, filters, _⟩ =>
      FailsOnly.bind (.once fun entered =>
        (describeFilters_blameless entered filters).bind fun _ => trivial) fun _ => trivial
  | .filter m => describeFilter_blameless entered m
  | .query m => describeQueryMessage_blameless entered m
  | .request ⟨_, query⟩ => (describeQueryMessage_blameless entered query).bind fun _ => trivial
termination_by structural m => m

theorem describeState_blameless (entered : List Spot) (id : Nat) :
    (state : QueryState Value) → FailsOnly Failure.Blameless (describeState entered id state)
  | ⟨_, kinds, projections, _, _, _, _, limit, offset⟩ =>
      FailsOnly.bind (.once fun entered =>
        (describeItems_blameless entered kinds).bind fun _ => trivial) fun _ =>
      FailsOnly.bind (.once fun entered =>
        (describeItems_blameless entered projections).bind fun _ => trivial) fun _ =>
      (Value.describeIn_blameless .described entered Option.none limit).bind fun _ =>
      (Value.describeIn_blameless .described entered Option.none offset).bind fun _ => trivial
termination_by structural state => state

end

/-- `describe` fails with `tooDeep` or `tooManyDigits` at most, and blames nobody. The message for a
bad unit contains its description, so this has to be known before `compileUnits` can be. -/
theorem Value.describe_blameless (v : Value) : FailsOnly Failure.Blameless v.describe :=
  v.describeIn_blameless .described [] Option.none

/-! ## Checks -/

/-- A refusal that is no failure that blames a filter unit. -/
def Refusal.Blameless : Refusal → Prop
  | .problems _ => True
  | .failed e => e.Blameless

namespace Checked

variable {α β : Type}

/-- A check that does not fail with the blame on a filter unit. -/
abbrev Blameless (x : Checked α) : Prop := FailsOnly Refusal.Blameless x

theorem under_blameless {x : Checked α} (h : Blameless x) (step : Place.Step) :
    Blameless (x.under step) := by
  rcases x with (_ | e) | a
  · trivial
  · exact h
  · trivial

theorem and_blameless {f : Checked (α → β)} {x : Checked α} (first : Blameless f)
    (second : Blameless x) : Blameless (f.and x) := by
  rcases f with (_ | _) | _ <;> rcases x with (_ | _) | _
  all_goals trivial

theorem map_blameless {x : Checked α} (h : Blameless x) (f : α → β) :
    Blameless (Except.map f x) := by
  cases x with
  | ok a => trivial
  | error refusal => exact h

theorem items_blameless {check : Value → Checked α} (each : ∀ v, Blameless (check v)) (index : Nat)
    (items : List Value) : Blameless (Checked.items check index items) := by
  induction items generalizing index with
  | nil => trivial
  | cons v rest ih =>
      exact and_blameless (and_blameless trivial (under_blameless (each v) _)) (ih (index + 1))

theorem orInvalid_blameless {x : Checked α} (h : Blameless x) (cls : MessageClass) :
    FailsOnly Failure.Blameless (x.orInvalid cls) := by
  rcases x with (_ | e) | a
  · rfl
  · exact h
  · trivial

end Checked

open Checked

theorem checkText_blameless (v : Value) : Blameless (checkText v) := by
  unfold checkText
  repeat' split
  all_goals trivial

theorem checkBytes_blameless (v : Value) : Blameless (checkBytes v) := by
  unfold checkBytes
  repeat' split
  all_goals trivial

theorem checkInteger_blameless (v : Value) : Blameless (checkInteger v) := by
  unfold checkInteger checkIntegerFloat checkIntegerText
  repeat' split
  all_goals trivial

theorem checkMember_blameless {α : Type} (enumeration : Enumeration)
    (ofSpelling? : String → Option α) (v : Value) :
    Blameless (checkMember enumeration ofSpelling? v) := by
  have shown := v.describe_blameless
  unfold checkMember
  split
  · trivial
  · split
    · trivial
    · rename_i e failed
      have described := Value.describe_of_lookUpFailure? failed
      rw [described] at shown
      exact shown

theorem checkOptional_blameless {α : Type} {check : Value → Checked α}
    (each : ∀ v, Blameless (check v)) (v : Value) : Blameless (checkOptional check v) := by
  unfold checkOptional
  split
  · trivial
  · exact map_blameless (each v) some

theorem checkEntries_blameless (before : List (String × Value)) (entries : List (Value × Value)) :
    Blameless (checkEntries before entries) := by
  induction entries generalizing before with
  | nil => trivial
  | cons e rest ih =>
      obtain ⟨k, v⟩ := e
      have key := checkText_blameless k
      unfold checkEntries
      cases read : checkText k with
      | ok s => exact ih _
      | error refusal =>
          rw [read] at key
          have refused : Blameless (α := List (String × Value) → List (String × Value))
              (.error refusal) := key
          exact and_blameless (under_blameless (under_blameless refused _) _) (ih before)

theorem Spelling.required_blameless {α : Type} (field : Spelling) {check : Value → Checked α}
    (each : ∀ v, Blameless (check v)) (entries : List (Value × Value)) :
    Blameless (field.required check entries) := by
  unfold required find?
  cases field.given? entries with
  | none => trivial
  | some given => exact under_blameless (each given.2) _

theorem Spelling.defaulted_blameless {α : Type} (field : Spelling) (absent : α)
    {check : Value → Checked α} (each : ∀ v, Blameless (check v)) (entries : List (Value × Value)) :
    Blameless (field.defaulted absent check entries) := by
  unfold defaulted find?
  cases field.given? entries with
  | none => trivial
  | some given => exact under_blameless (each given.2) _

theorem Spelling.descend_blameless {α : Type} (field : Spelling) (absent : α)
    {check : Value → Descent α} (each : ∀ v refused, Blameless (check v refused).1)
    (entries : List (Value × Value)) (refused : List Value) :
    Blameless (field.descend absent check entries refused).1 := by
  unfold descend
  split
  · exact under_blameless (each _ _) _
  · trivial

theorem PropertyReference.check_blameless (v : Value) : Blameless (PropertyReference.check v) := by
  unfold check
  split
  · trivial
  · exact and_blameless trivial (Spelling.required_blameless _ checkText_blameless _)
  · trivial

theorem PropertyOrder.check_blameless (v : Value) : Blameless (PropertyOrder.check v) := by
  unfold check
  split
  · trivial
  · exact and_blameless
      (and_blameless trivial (Spelling.required_blameless _ PropertyReference.check_blameless _))
      (Spelling.defaulted_blameless _ _ (checkMember_blameless _ _) _)
  · trivial

theorem checkMapping_blameless (v : Value) : Blameless (checkMapping v) := by
  unfold checkMapping
  split
  · exact checkEntries_blameless [] _
  · trivial

theorem PropertyFilter.check_blameless (v : Value) : Blameless (PropertyFilter.check v) := by
  unfold check
  split
  · trivial
  · exact and_blameless (and_blameless
      (and_blameless trivial (Spelling.required_blameless _ PropertyReference.check_blameless _))
      (Spelling.required_blameless _ (checkMember_blameless _ _) _))
      (Spelling.required_blameless _ checkMapping_blameless _)
  · trivial

theorem Filter.checkItems_blameless {check : Value → Descent (Filter Value)}
    (each : ∀ v refused, Blameless (check v refused).1) (index : Nat) (items : List Value)
    (refused : List Value) : Blameless (Filter.checkItems check index items refused).1 := by
  induction items generalizing index refused with
  | nil => trivial
  | cons v rest ih =>
      exact and_blameless (and_blameless trivial (under_blameless (each v refused) _)) (ih _ _)

theorem CompositeFilter.descend_blameless {check : Value → Descent (Filter Value)}
    (each : ∀ v refused, Blameless (check v refused).1) (entries : List (Value × Value))
    (refused : List Value) : Blameless (CompositeFilter.descend check entries refused).1 := by
  have sequence : ∀ v refused, Blameless (Filter.checkSequence check v refused).1 := by
    intro v refused
    unfold Filter.checkSequence
    split
    · exact Filter.checkItems_blameless each 0 _ refused
    · trivial
  exact and_blameless
    (and_blameless trivial (Spelling.defaulted_blameless _ _ (checkMember_blameless _ _) _))
    (Spelling.descend_blameless _ _ sequence _ _)

/-- `Filter.checkIn` is blameless for any fuel, by induction on the levels that are left. -/
theorem Filter.checkIn_blameless (levels : Nat) (inside : List Nat) (v : Value)
    (refused : List Value) : Blameless (Filter.checkIn levels inside v refused).1 := by
  -- Filters in a combination are looked into with one level less, and with its place entered.
  induction levels generalizing inside v refused with
  | zero =>
      unfold checkIn
      split <;> trivial
  | succ levels ih =>
      have composites : ∀ entries, Blameless (Field.compositeFilter.descend none
          (CompositeFilter.descend? (Filter.checkIn levels (v.place?.toList ++ inside)))
          entries refused).1 := by
        intro entries
        refine Spelling.descend_blameless _ _ (fun v refused => ?_) _ _
        unfold CompositeFilter.descend?
        split
        · trivial
        · trivial
        · exact map_blameless (CompositeFilter.descend_blameless (ih _) _ _) some
        · trivial
      rw [checkIn]
      split
      · trivial
      · dsimp only
        split
        · trivial
        · refine FailsOnly.bind (and_blameless (and_blameless ?_ ?_) (composites _)) fun parts => ?_
          · trivial
          · exact Spelling.defaulted_blameless _ _
              (checkOptional_blameless PropertyFilter.check_blameless) _
          · unfold ofParts
            split <;> trivial
        · trivial

/-- `CompositeFilter.make` is blameless, whatever its parts are. So a combination blames no unit of
the builder that it is in. -/
theorem CompositeFilter.make_blameless (op : Value) (parts : List Value) :
    FailsOnly Failure.Blameless (CompositeFilter.make op parts) :=
  orInvalid_blameless (CompositeFilter.descend_blameless (Filter.checkIn_blameless _ _) _ _) _

/-- And so is `QueryMessage.make`, which comes after the units. -/
theorem QueryMessage.make_blameless (kinds : List KindExpression) (projections : List Projection)
    (filter : Option (Filter Value)) (orders groups : List (Message Value))
    (startCursor limit offset : Value) :
    FailsOnly Failure.Blameless
      (make kinds projections filter orders groups startCursor limit offset) := by
  rw [make_eq]
  refine orInvalid_blameless ?_ _
  refine and_blameless
    (and_blameless (and_blameless (and_blameless (and_blameless trivial ?_) ?_) ?_) ?_) ?_
  all_goals refine under_blameless ?_ _
  · exact items_blameless PropertyOrder.check_blameless 0 _
  · exact items_blameless PropertyReference.check_blameless 0 _
  · exact checkOptional_blameless checkBytes_blameless _
  · exact checkOptional_blameless checkInteger_blameless _
  · exact checkInteger_blameless _

end EntityQuery
