import EntityQuery.Proofs.Grammar

/-!
# Plain data and what its checks say of filters

Data that is made of constants, numbers, texts, bytes and containers alone: what validation is
given by whoever has decoded a body. The checks of its parts come to an end, and what they say of
filters as such can be told apart from what they say of anything else.

* `Value.IsPlain` is such data. It is not nested in itself, and its description fails only with
  `Failure.tooManyDigits` (`Value.IsPlain.tried_describeIn`), so that the look-up of a member comes
  to an end: `checkMember` asks for a description where a value names no member.
* `Complaint.ofFilter` are the complaints about filters as such, and `Complaint.isStop` those of the
  recursion guard among them.
* `Checked.Tells` says of a check that it comes to an end and which complaints about filters it
  has. It is closed under everything that checks do, and `Checked.Quiet` is the case that there are
  none, as in all parts of a filter but the filters inside of it.
-/

namespace EntityQuery

/-- Data that is made of constants, numbers, texts and bytes alone, inside of the places in
`inside`. Messages, keys and builders are left out: they are accepted or described by other
rules. -/
inductive Value.IsPlain : List Nat → Value → Prop where
  | none {inside : List Nat} : IsPlain inside .none
  | bool {inside : List Nat} (b : Bool) : IsPlain inside (.bool b)
  | int {inside : List Nat} (n : Int) : IsPlain inside (.int n)
  | float {inside : List Nat} (x : Binary64) : IsPlain inside (.float x)
  | text {inside : List Nat} (s : String) : IsPlain inside (.text s)
  | bytes {inside : List Nat} (b : List UInt8) : IsPlain inside (.bytes b)
  | list {inside : List Nat} {items : List Value} (parts : ∀ v ∈ items, IsPlain inside v) :
      IsPlain inside (.list items)
  | tuple {inside : List Nat} {items : List Value} (parts : ∀ v ∈ items, IsPlain inside v) :
      IsPlain inside (.tuple items)
  | mapping {inside : List Nat} {entries : List (Value × Value)}
      (keys : ∀ e ∈ entries, IsPlain inside e.1) (parts : ∀ e ∈ entries, IsPlain inside e.2) :
      IsPlain inside (.mapping entries)
  /-- What is at a place that is not around it. -/
  | object {inside : List Nat} {number : Nat} {look : Unit → Value} (outside : number ∉ inside)
      (seen : IsPlain (number :: inside) (look ())) : IsPlain inside (.object number look)

/-- A mapping from texts is plain if its values are. -/
theorem Value.isPlain_ofTexts {inside : List Nat} {fields : List (String × Value)}
    (parts : ∀ e ∈ fields, e.2.IsPlain inside) : (ofTexts fields).IsPlain inside := by
  refine .mapping ?_ ?_ <;> rintro _ he <;> obtain ⟨e, mem, rfl⟩ := List.mem_map.mp he
  · exact .text e.1
  · exact parts e mem

/-! ## Descriptions of plain data -/

/-- There is a result, or an integer has too many digits for one. Descriptions of plain data fail in
no other way. -/
inductive Tried {α : Type} : Except Failure α → Prop where
  | written (a : α) : Tried (.ok a)
  | tooLong : Tried (.error .tooManyDigits)

theorem Tried.bind {α β : Type} {c : Except Failure α} {f : α → Except Failure β} (h : Tried c)
    (each : ∀ a, Tried (f a)) : Tried (c >>= f) := by
  cases h with
  | written a => exact each a
  | tooLong => exact .tooLong

theorem tried_writeInteger (n : Int) : Tried (writeInteger n) := by
  unfold writeInteger
  split
  · exact .written _
  · exact .tooLong

/-- An ellipsis is a description as well, so it does not matter what is inside of what. -/
theorem tried_once {entered : List Describe.Spot} {spot : Option Describe.Spot}
    {ellipsis : String} {describe : List Describe.Spot → Except Failure String}
    (each : ∀ entered, Tried (describe entered)) :
    Tried (Describe.once entered spot ellipsis describe) := by
  unfold Describe.once
  split
  · exact each entered
  · split
    · exact .written ellipsis
    · exact each _

theorem tried_describeItems {entered : List Describe.Spot} {items : List Value}
    (each : ∀ v ∈ items, Tried (v.describeIn .described entered none)) :
    Tried (describeItems entered items) := by
  induction items with
  | nil => exact .written []
  | cons v rest ih =>
      obtain ⟨first, others⟩ := List.forall_mem_cons.mp each
      exact first.bind fun _ => (ih others).bind fun _ => .written _

theorem tried_describeEntries {entered : List Describe.Spot} {entries : List (Value × Value)}
    (keys : ∀ e ∈ entries, Tried (e.1.describeIn .described entered none))
    (parts : ∀ e ∈ entries, Tried (e.2.describeIn .described entered none)) :
    Tried (describeEntries entered entries) := by
  induction entries with
  | nil => exact .written []
  | cons e rest ih =>
      obtain ⟨key, otherKeys⟩ := List.forall_mem_cons.mp keys
      obtain ⟨part, otherParts⟩ := List.forall_mem_cons.mp parts
      exact key.bind fun _ => part.bind fun _ => (ih otherKeys otherParts).bind fun _ => .written _

namespace Value

/-- Nothing but the length of an integer keeps plain data from having a description, whatever is
being described around it. By induction on `IsPlain`. -/
theorem IsPlain.tried_describeIn {inside : List Nat} {v : Value} (h : v.IsPlain inside)
    (style : Describe.Style) (entered : List Describe.Spot) (place : Option Nat) :
    Tried (v.describeIn style entered place) := by
  induction h generalizing style entered place with
  | none | bool _ | float _ | text _ | bytes _ => exact .written _
  | int n => exact tried_writeInteger n
  | list _ ih | tuple _ ih =>
      refine tried_once fun entered => ?_
      exact (tried_describeItems fun v hv => ih v hv .described entered _).bind fun _ => .written _
  | mapping _ _ keys parts =>
      refine tried_once fun entered => ?_
      exact (tried_describeEntries (fun e he => keys e he .described entered _)
        fun e he => parts e he .described entered _).bind fun _ => .written _
  | object _ _ ih => exact ih style entered _

/-- So the look-up of a member for plain data only ever finds that there is none: `lookUpFailure?`
forgives `tooManyDigits`. -/
theorem IsPlain.lookUpFailure? {inside : List Nat} {v : Value} (h : v.IsPlain inside) :
    v.lookUpFailure? = Option.none := by
  have tried : Tried v.describe := h.tried_describeIn .described [] Option.none
  unfold Value.lookUpFailure?
  generalize v.describe = described at tried
  cases tried <;> rfl

end Value

/-! ## Parts of plain data -/

namespace Value

/-- What is seen of plain data is plain, inside of the place of the data as well. The list of places
only grows on the way down, which is what `around ⊆ inside` is about later. -/
theorem IsPlain.content {inside : List Nat} {v : Value} (h : v.IsPlain inside) :
    ∃ inside', inside ⊆ inside' ∧ v.place?.toList ⊆ inside' ∧ v.content.IsPlain inside' ∧
      v.content.place? = Option.none := by
  induction h with
  | object _ _ ih =>
      obtain ⟨inside', more, -, plain, placeless⟩ := ih
      refine ⟨inside', fun n hn => more (List.mem_cons_of_mem _ hn), ?_, plain, placeless⟩
      simpa [place?] using more List.mem_cons_self
  | _ => exact ⟨_, fun _ => id, by simp [place?], by constructor <;> assumption, rfl⟩

/-- The values of a mapping that is seen of plain data are plain. -/
theorem IsPlain.of_mapping {inside : List Nat} {v : Value} (h : v.IsPlain inside)
    {entries : List (Value × Value)} (seen : v.content = .mapping entries) :
    ∃ inside', inside ⊆ inside' ∧ v.place?.toList ⊆ inside' ∧
      ∀ e ∈ entries, e.2.IsPlain inside' := by
  obtain ⟨inside', more, place, plain, -⟩ := h.content
  rw [seen] at plain
  cases plain with
  | mapping _ parts => exact ⟨inside', more, place, parts⟩

/-- The items of a sequence that is seen of plain data are plain. -/
theorem IsPlain.of_sequence {inside : List Nat} {v : Value} (h : v.IsPlain inside)
    {items : List Value} (seen : v.sequence? = some items) :
    ∃ inside', inside ⊆ inside' ∧ ∀ w ∈ items, w.IsPlain inside' := by
  obtain ⟨inside', more, -, plain, placeless⟩ := h.content
  unfold sequence? at seen
  generalize v.content = u at seen plain placeless
  cases plain with
  | list parts | tuple parts =>
      obtain rfl := Option.some.inj seen
      exact ⟨inside', more, parts⟩
  | object => cases placeless
  | _ => cases seen

theorem IsPlain.content_ne_message {inside : List Nat} {v : Value} (h : v.IsPlain inside)
    (m : Message Value) : v.content ≠ .message m := by
  obtain ⟨inside', -, -, plain, placeless⟩ := h.content
  intro seen
  rw [seen] at plain
  cases plain

end Value

/-! ## Complaints about filters -/

/-- Is the complaint that the recursion guard does not let a filter be looked at? There are two:
`tooDeep`, and `recursive` for what is inside of itself or has been refused already. -/
def Complaint.isStop : Complaint → Bool
  | recursive | tooDeep => true
  | _ => false

/-- Is the complaint about a filter as such, and not about something in it? Besides those of the
guard, that is `exactlyOneExpected`. -/
def Complaint.ofFilter : Complaint → Bool
  | exactlyOneExpected | recursive | tooDeep => true
  | _ => false

theorem Complaint.ofFilter_of_isStop {c : Complaint} (h : c.isStop = true) :
    c.ofFilter = true := by
  cases c <;> first | rfl | cases h

namespace Checked

variable {α β : Type} {c : Checked α} {f : Checked (α → β)} {a : Checked α}
  {told told' : Problem → Prop}

/-- A check comes to an end, and the complaints about filters among what it has `found` are those in
`told`. Other complaints are of no interest here and are left open. -/
structure Tells (c : Checked α) (told : Problem → Prop) : Prop where
  ends : c.Ends
  found_iff : ∀ p, p.complaint.ofFilter = true → (p ∈ c.found ↔ told p)

/-- A check comes to an end without a complaint about a filter. All checks of fields other than
those for filters are `Quiet`. -/
def Quiet (c : Checked α) : Prop := c.Tells fun _ => False

theorem Tells.congr (h : c.Tells told) (same : ∀ p, told p ↔ told' p) : c.Tells told' :=
  ⟨h.ends, fun p ofFilter => (h.found_iff p ofFilter).trans (same p)⟩

theorem quiet_ok (a : α) : Quiet (.ok a) := ⟨.ok a, by simp [found]⟩

theorem quiet_problem {p : Problem} (other : p.complaint.ofFilter = false) :
    Quiet (.error (.problems [p]) : Checked α) := by
  refine ⟨.problems p [], fun q ofFilter => ?_⟩
  rw [found, List.mem_singleton, iff_false]
  rintro rfl
  exact Bool.noConfusion (ofFilter.symm.trans other)

theorem quiet_complain {c : Complaint} (other : c.ofFilter = false) :
    (complain c : Checked α).Quiet := quiet_problem other

theorem quiet_orComplain {c : Complaint} (other : c.ofFilter = false) (read? : Option α) :
    (orComplain c read?).Quiet := by
  cases read? with
  | none => exact quiet_complain other
  | some a => exact quiet_ok a

theorem Tells.under (h : c.Tells told) (step : Place.Step) :
    (c.under step).Tells fun p => ∃ q, p = q.under step ∧ told q := by
  refine ⟨h.ends.under step, fun p ofFilter => ?_⟩
  rw [found_under, List.mem_map]
  constructor
  · rintro ⟨q, found, rfl⟩
    exact ⟨q, rfl, (h.found_iff q ofFilter).mp found⟩
  · rintro ⟨q, rfl, told⟩
    exact ⟨q, (h.found_iff q ofFilter).mpr told, rfl⟩

theorem Quiet.under (h : c.Quiet) (step : Place.Step) : (c.under step).Quiet :=
  (Tells.under h step).congr fun _ => by simp

theorem Tells.and (hf : f.Tells told) (ha : a.Tells told') :
    (f.and a).Tells fun p => told p ∨ told' p := by
  refine ⟨hf.ends.and ha.ends, fun p ofFilter => ?_⟩
  rw [found_and hf.ends ha.ends, List.mem_append, hf.found_iff p ofFilter,
    ha.found_iff p ofFilter]

theorem Quiet.and (hf : f.Quiet) (ha : a.Quiet) : (f.and a).Quiet :=
  (Tells.and hf ha).congr fun _ => by simp

/-- What a refusal says does not depend on what was asked for. -/
theorem Quiet.of_error {refusal : Refusal} (h : Quiet (.error refusal : Checked α)) :
    Quiet (.error refusal : Checked β) := by
  obtain ⟨ends, found⟩ := h
  cases ends with
  | problems p rest => exact ⟨.problems p rest, found⟩

theorem found_map (g : α → β) : found (Except.map g c) = c.found := by
  rcases c with (_ | _) | _ <;> rfl

theorem Ends.map (h : c.Ends) (g : α → β) : Ends (Except.map g c) := by
  cases h with
  | ok a => exact .ok _
  | problems p rest => exact .problems _ _

theorem Tells.map (h : c.Tells told) (g : α → β) : Tells (Except.map g c) told :=
  ⟨h.ends.map g, fun p ofFilter => (found_map g).symm ▸ h.found_iff p ofFilter⟩

end Checked

open Checked (Quiet quiet_ok quiet_complain quiet_orComplain)

section

variable {α : Type} {check : Value → Checked α} {field : Spelling}
  {entries : List (Value × Value)}

theorem Spelling.quiet_required
    (each : ∀ {name v}, field.given? entries = some (name, v) → (check v).Quiet) :
    (field.required check entries).Quiet := by
  unfold required find?
  cases given : field.given? entries with
  | none => exact Checked.quiet_problem rfl
  | some e => exact (each given).under _

theorem Spelling.quiet_defaulted {absent : α}
    (each : ∀ {name v}, field.given? entries = some (name, v) → (check v).Quiet) :
    (field.defaulted absent check entries).Quiet := by
  unfold defaulted find?
  cases given : field.given? entries with
  | none => exact quiet_ok absent
  | some e => exact (each given).under _

theorem quiet_checkOptional {v : Value} (h : (check v).Quiet) : (checkOptional check v).Quiet := by
  unfold checkOptional
  split
  · exact quiet_ok none
  · exact h.map some

end

/-! ## Checks of plain data -/

theorem quiet_checkText (v : Value) : (checkText v).Quiet := by
  rw [checkText_eq]
  refine quiet_orComplain ?_ _
  unfold Value.textComplaint
  split <;> rfl

/-- Plain data is asked for a member in peace: where it names none, `IsPlain.lookUpFailure?` keeps
the check from failing itself. -/
theorem Value.IsPlain.quiet_checkMember {α : Type} {inside : List Nat} {v : Value}
    (h : v.IsPlain inside) (enumeration : Enumeration) (ofSpelling? : String → Option α) :
    (checkMember enumeration ofSpelling? v).Quiet := by
  unfold checkMember
  rw [h.lookUpFailure?]
  split
  · exact quiet_ok _
  · exact quiet_complain rfl

theorem quiet_checkEntries (before : List (String × Value)) (entries : List (Value × Value)) :
    (checkEntries before entries).Quiet := by
  induction entries generalizing before with
  | nil => exact quiet_ok before
  | cons e rest ih =>
      obtain ⟨k, v⟩ := e
      rw [checkEntries]
      have key := quiet_checkText k
      cases read : checkText k with
      | ok s => exact ih _
      | error refusal =>
          rw [read] at key
          exact ((key.of_error.under _).under _).and (ih before)

theorem quiet_checkMapping (v : Value) : (checkMapping v).Quiet := by
  unfold checkMapping
  split
  · exact quiet_checkEntries _ _
  · exact quiet_complain rfl

theorem PropertyReference.quiet_check (v : Value) : (check v).Quiet := by
  unfold check
  split
  · exact quiet_ok _
  · exact (quiet_ok _).and (Spelling.quiet_required fun _ => quiet_checkText _)
  · exact quiet_complain rfl

/-- Plain data is checked for a property filter without asking for exactly one part. -/
theorem PropertyFilter.quiet_check {inside : List Nat} {v : Value} (h : v.IsPlain inside) :
    (check v).Quiet := by
  unfold check
  split
  · exact quiet_ok _
  · rename_i entries seen
    obtain ⟨inside', -, -, parts⟩ := h.of_mapping seen
    have op : ∀ {name v}, Field.op.given? entries = some (name, v) →
        (checkPropertyOperator v).Quiet := by
      intro name v given
      obtain ⟨e, he, rfl⟩ := Spelling.mem_of_given? given
      exact (parts e he).quiet_checkMember _ _
    exact (((quiet_ok _).and (Spelling.quiet_required fun _ => PropertyReference.quiet_check _)).and
      (Spelling.quiet_required op)).and (Spelling.quiet_required fun _ => quiet_checkMapping _)
  · exact quiet_complain rfl

end EntityQuery
