import EntityQuery.Proofs.PlainData
import Mathlib.Data.List.Nodup

/-!
# Filters inside of data for filters

Where validation goes when it is given data for a filter: down through the composite parts, from a
list of filters to each of its items.

* `Value.subfilters` are the data for filters directly below, with the way to each, and
  `Value.FilterAt` goes down by them. The number of filters on the way is what the recursion guard
  counts, so `Value.FilterAt` has it beside the place, and `Value.Within` bounds it.
* `Filter.Undecided` is data both of whose parts are acceptable, where none or both are there.
* All ways from a filter to those directly below are three steps long and different
  (`Value.length_of_mem_subfilters`, `Value.nodup_subfilters`), so a place tells which filter it is
  of (`Value.FilterAt.unique`).
-/

namespace EntityQuery

/-! ## Data for filters inside of data for filters -/

/-- The items of a list with the way to each, by position from `index` on, as `Filter.checkItems`
counts them. -/
def Place.indexed (items : List Value) (index : Nat) : List (Place × Value) :=
  (items.zipIdx index).map fun e => ([.index e.2], e.1)

/-- The data for filters in the fields of a composite filter, with the way to each.
`Field.filters.given?` finds the list, as it does for the check. -/
def CompositeFilter.itemsIn (entries : List (Value × Value)) : List (Place × Value) :=
  match Field.filters.given? entries with
  | some (name, v) => (Place.indexed (v.sequence?.getD []) 0).map fun e => (.key name :: e.1, e.2)
  | none => []

/-- The data for filters in data for a composite filter. -/
def Value.compositeItems (v : Value) : List (Place × Value) :=
  match v.content with
  | .mapping entries => CompositeFilter.itemsIn entries
  | _ => []

/-- The data for filters in the fields of a filter, with the way to each. -/
def Filter.itemsIn (entries : List (Value × Value)) : List (Place × Value) :=
  match Field.compositeFilter.given? entries with
  | some (name, part) => part.compositeItems.map fun e => (.key name :: e.1, e.2)
  | none => []

/-- The data for filters directly below data for a filter, with the way to each: through the
composite part and its list, by the names that these are given by. A problem of `Filter.checkIn` is
reported under one of these ways or at the data itself. -/
def Value.subfilters (v : Value) : List (Place × Value) :=
  match v.content with
  | .mapping entries => Filter.itemsIn entries
  | _ => []

/-- There is data for a filter below data for a filter: how many filters down, where, and what.
Nothing is checked on the way, so this is about any data, and `depth` can be more than
`Nesting.limit`. -/
inductive Value.FilterAt : Value → Nat → Place → Value → Prop where
  | here (v : Value) : FilterAt v 0 [] v
  | deeper {v w u : Value} {way place : Place} {depth : Nat} (child : (way, w) ∈ v.subfilters)
      (inside : FilterAt w depth place u) : FilterAt v (depth + 1) (way ++ place) u

/-- Data for a filter with no more than a number of filters inside each other. It is what the levels
of `checkIn` measure. -/
def Value.Within (levels : Nat) (v : Value) : Prop :=
  ∀ depth place w, v.FilterAt depth place w → depth < levels

/-- Data for a filter both of whose parts can be read, where both are there or neither is. That is
when `Filter.ofParts` complains, if it is asked at all. -/
def Filter.Undecided (v : Value) : Prop :=
  ∃ entries property composite, v.content = .mapping entries ∧
    Filter.PartsRead entries property composite ∧ property.isSome = composite.isSome

/-- `Within` goes down level by level, as `checkIn` does. -/
theorem Value.within_succ_iff {levels : Nat} {v : Value} :
    v.Within (levels + 1) ↔ ∀ e ∈ v.subfilters, e.2.Within levels := by
  constructor
  · exact fun h e child _ _ _ inside => Nat.lt_of_succ_lt_succ (h _ _ _ (.deeper child inside))
  · rintro h _ _ _ (_ | ⟨child, inside⟩)
    · exact Nat.succ_pos levels
    · exact Nat.succ_lt_succ (h _ child _ _ _ inside)

/-- The data for filters in a composite filter is that in its list, behind the name it is given by.
The check of the list is unfolded to `checkItems` over the same items. -/
theorem CompositeFilter.itemsIn_of_given {entries : List (Value × Value)} {name : String}
    {v : Value} (given : Field.filters.given? entries = some (name, v)) :
    itemsIn entries =
      (Place.indexed (v.sequence?.getD []) 0).map fun e => (.key name :: e.1, e.2) := by
  rw [itemsIn, given]

/-- The data for filters in a filter is that in its composite part, behind the name it is given
by. -/
theorem Filter.itemsIn_of_given {entries : List (Value × Value)} {name : String} {part : Value}
    (given : Field.compositeFilter.given? entries = some (name, part)) :
    itemsIn entries = part.compositeItems.map fun e => (.key name :: e.1, e.2) := by
  rw [itemsIn, given]

theorem Place.indexed_cons (v : Value) (rest : List Value) (index : Nat) :
    indexed (v :: rest) index = ([.index index], v) :: indexed rest (index + 1) := by
  rw [indexed, List.zipIdx_cons]
  rfl

theorem Place.mem_indexed_iff {items : List Value} {e : Place × Value} :
    e ∈ indexed items 0 ↔ ∃ k : Nat, items[k]? = some e.2 ∧ e.1 = [.index k] := by
  obtain ⟨way, w⟩ := e
  simp only [indexed, List.mem_map, Prod.exists, List.mk_mem_zipIdx_iff_getElem?, Prod.mk.injEq]
  constructor
  · rintro ⟨w, k, item, rfl, rfl⟩
    exact ⟨k, item, rfl⟩
  · rintro ⟨k, item, rfl⟩
    exact ⟨w, k, item, rfl, rfl⟩

/-- Data for filters in the fields of a composite filter is plain if the fields are. -/
theorem CompositeFilter.plain_of_itemsIn {inside : List Nat} {entries : List (Value × Value)}
    (parts : ∀ e ∈ entries, e.2.IsPlain inside) :
    ∀ e ∈ itemsIn entries, ∃ inside', inside ⊆ inside' ∧ e.2.IsPlain inside' := by
  intro e he
  unfold itemsIn at he
  split at he
  · rename_i name v given
    obtain ⟨field, hField, rfl⟩ := Spelling.mem_of_given? given
    obtain ⟨⟨way, w⟩, mem, rfl⟩ := List.mem_map.mp he
    obtain ⟨k, item, -⟩ := Place.mem_indexed_iff.mp mem
    cases seen : field.2.sequence? with
    | none => simp [seen] at item
    | some items =>
        obtain ⟨inside', more, plain⟩ := (parts field hField).of_sequence seen
        rw [seen] at item
        exact ⟨inside', more, plain w (List.mem_of_getElem? item)⟩
  · cases he

/-- So is data for filters in the fields of a filter. -/
theorem Filter.plain_of_itemsIn {inside : List Nat} {entries : List (Value × Value)}
    (parts : ∀ e ∈ entries, e.2.IsPlain inside) :
    ∀ e ∈ itemsIn entries, ∃ inside', inside ⊆ inside' ∧ e.2.IsPlain inside' := by
  intro e he
  unfold itemsIn at he
  split at he
  · rename_i name v given
    obtain ⟨field, hField, rfl⟩ := Spelling.mem_of_given? given
    obtain ⟨item, mem, rfl⟩ := List.mem_map.mp he
    unfold Value.compositeItems at mem
    split at mem
    · rename_i inner seen
      obtain ⟨inside', more, -, plain⟩ := (parts field hField).of_mapping seen
      obtain ⟨inside'', more', plain'⟩ := CompositeFilter.plain_of_itemsIn plain item mem
      exact ⟨inside'', List.Subset.trans more more', plain'⟩
    · cases mem
  · cases he

/-! ## One filter at each place -/

/-- Data for a filter directly below is an item of the list in the composite part, and the way to it
goes through the names that the part and the list are given by. The inversion of `subfilters`, and
what later proofs use in place of its definition. -/
theorem Value.exists_of_mem_subfilters {v w : Value} {way : Place} (h : (way, w) ∈ v.subfilters) :
    ∃ entries outer part inner list, ∃ k : Nat, v.content = .mapping entries ∧
      Field.compositeFilter.given? entries = some (outer, part) ∧
      ∃ entries', part.content = .mapping entries' ∧
        Field.filters.given? entries' = some (inner, list) ∧
        (list.sequence?.getD [])[k]? = some w ∧ way = [.key outer, .key inner, .index k] := by
  unfold subfilters at h
  split at h
  · rename_i entries seen
    unfold Filter.itemsIn at h
    split at h
    · rename_i outer part given
      obtain ⟨item, mem, same⟩ := List.mem_map.mp h
      obtain ⟨rfl, rfl⟩ := Prod.mk.inj same
      unfold compositeItems at mem
      split at mem
      · rename_i entries' seen'
        unfold CompositeFilter.itemsIn at mem
        split at mem
        · rename_i inner list given'
          obtain ⟨⟨_, w⟩, indexed, rfl⟩ := List.mem_map.mp mem
          obtain ⟨k, item, rfl⟩ := Place.mem_indexed_iff.mp indexed
          exact ⟨entries, outer, part, inner, list, k, seen, given, entries', seen', given', item,
            rfl⟩
        · cases mem
      · cases mem
    · cases h
  · cases h

/-- The way to data for a filter directly below is three steps long, so ways to different depths are
never the same. -/
theorem Value.length_of_mem_subfilters {v w : Value} {way : Place}
    (h : (way, w) ∈ v.subfilters) : way.length = 3 := by
  obtain ⟨_, _, _, _, _, _, _, _, _, _, _, _, rfl⟩ := exists_of_mem_subfilters h
  rfl

theorem Value.eq_of_mem_subfilters {v w w' : Value} {way : Place} (h : (way, w) ∈ v.subfilters)
    (h' : (way, w') ∈ v.subfilters) : w = w' := by
  obtain ⟨entries, outer, part, inner, list, k, seen, given, fields, seenPart, givenList, item,
    rfl⟩ := exists_of_mem_subfilters h
  obtain ⟨_, _, _, _, _, _, seen', given', _, seenPart', givenList', item', same⟩ :=
    exists_of_mem_subfilters h'
  obtain rfl := mapping.inj (seen.symm.trans seen')
  obtain ⟨rfl, rfl⟩ := Prod.mk.inj (Option.some.inj (given.symm.trans given'))
  obtain rfl := mapping.inj (seenPart.symm.trans seenPart')
  obtain ⟨rfl, rfl⟩ := Prod.mk.inj (Option.some.inj (givenList.symm.trans givenList'))
  simp only [List.cons.injEq, Place.Step.index.injEq, Int.natCast_inj, true_and, and_true] at same
  obtain rfl := same
  exact Option.some.inj (item.symm.trans item')

/-- There is one filter at a place, at most. By induction on one way, which the other follows in
steps of three (`length_of_mem_subfilters`). -/
theorem Value.FilterAt.unique {v w w' : Value} {depth depth' : Nat} {place : Place}
    (h : v.FilterAt depth place w) (h' : v.FilterAt depth' place w') : w = w' := by
  induction h generalizing depth' w' with
  | here v =>
      generalize root : ([] : Place) = place at h'
      cases h' with
      | here => rfl
      | deeper child =>
          have := length_of_mem_subfilters child
          simp_all
  | @deeper v w₁ _ way rest _ child inside ih =>
      generalize same : way ++ rest = place at h'
      cases h' with
      | here =>
          have := length_of_mem_subfilters child
          simp_all
      | deeper child' inside' =>
          obtain ⟨rfl, rfl⟩ := List.append_inj same
            ((length_of_mem_subfilters child).trans (length_of_mem_subfilters child').symm)
          obtain rfl := eq_of_mem_subfilters child child'
          exact ih inside'

theorem Place.nodup_indexed (items : List Value) (index : Nat) :
    ((indexed items index).map Prod.fst).Nodup := by
  have ways : (indexed items index).map Prod.fst =
      ((items.zipIdx index).map Prod.snd).map fun k => [.index (k : Int)] := by
    rw [indexed, List.map_map, List.map_map]
    rfl
  rw [ways, List.zipIdx_map_snd]
  refine List.Nodup.map (fun k k' same => ?_) List.nodup_range'
  simpa using same

/-- The ways in `subfilters` are all different, so a problem can be traced to the check that has
found it. -/
theorem Value.nodup_subfilters (v : Value) : (v.subfilters.map Prod.fst).Nodup := by
  have under : ∀ {children : List (Place × Value)} (step : Place.Step),
      (children.map Prod.fst).Nodup →
        ((children.map fun e => (step :: e.1, e.2)).map Prod.fst).Nodup := by
    intro children step nodup
    have ways : (children.map fun e => (step :: e.1, e.2)).map Prod.fst =
        (children.map Prod.fst).map (step :: ·) := by
      rw [List.map_map, List.map_map]
      rfl
    rw [ways]
    exact nodup.map fun _ _ same => (List.cons.inj same).2
  -- The ways branch at the positions in the list only; both names come before that.
  unfold subfilters
  split
  · unfold Filter.itemsIn
    split
    · refine under _ ?_
      unfold compositeItems
      split
      · unfold CompositeFilter.itemsIn
        split
        · exact under _ (Place.nodup_indexed _ 0)
        · exact .nil
      · exact .nil
    · exact .nil
  · exact .nil

end EntityQuery
