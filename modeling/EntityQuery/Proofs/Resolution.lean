import EntityQuery.Proofs.Copies
import EntityQuery.Proofs.Grammar
import EntityQuery.Proofs.Lossless
import EntityQuery.Proofs.Mirror
import EntityQuery.Proofs.Records

/-!
# When operands are resolved

A comparison keeps the operand that it was given, a mapping that the caller may go on changing. What
the mapping holds is read when a builder is compiled, and is never read again for the message that
comes of it.

* `Value.partAt?` and `Filter.partAt?` are the unit and the filter at a position, and
  `Value.compares_of_compile` says that a comparison becomes the property filter at its position,
  whatever other units there are beside it.
* `Workspace.entriesAt?` is what a mapping holds at a time: the texts of its keys, and what its
  values are. `Workspace.HoldsFields.run` says that it is what has been assigned to it by then.
* `QueryMessage.LeafAt` is what a message shows at a position, and `Workspace.leafAt_of_compile`
  says that this is what the operand there held when the message was made.
-/

namespace EntityQuery

/-! ## Positions -/

/-- The unit at a position inside of a unit. The way goes from combinations to their parts by
number; conditions have no places of their own, so there is nothing else on it. -/
def Value.partAt? : Value → List Nat → Option Value
  | v, [] => some v
  | .combination _ _ parts, i :: way => (parts[i]?).bind (·.partAt? way)
  | _, _ :: _ => Option.none

/-- The filter at a position inside of a filter. -/
def Filter.partAt? : Filter Value → List Nat → Option (Filter Value)
  | f, [] => some f
  | .composite _ filters _, i :: way => (filters[i]?).bind (·.partAt? way)
  | .property _, _ :: _ => none

/-- `lookUp` changes no position, so a unit is found where it was when it is looked at again. -/
theorem Value.partAt?_lookUp (s : Sight) {u v : Value} {way : List Nat}
    (found : u.partAt? way = some v) : (u.lookUp s).partAt? way = some (v.lookUp s) := by
  induction way generalizing u with
  | nil =>
      rw [partAt?] at found ⊢
      rw [Option.some.inj found]
  | cons i way ih =>
      cases u with
      | combination mark op parts =>
          obtain ⟨p, part, found⟩ := Option.bind_eq_some_iff.mp found
          rw [lookUp, partAt?, lookUpItems_eq_map, List.getElem?_map, part]
          exact ih found
      | _ => cases found

theorem Filter.partAt?_lookUp (s : Sight) {f g : Filter Value} {way : List Nat}
    (found : f.partAt? way = some g) :
    (lookUpFilter s f).partAt? way = some (lookUpFilter s g) := by
  induction way generalizing f with
  | nil =>
      rw [partAt?] at found ⊢
      rw [Option.some.inj found]
  | cons i way ih =>
      cases f with
      | composite op filters mark =>
          obtain ⟨p, part, found⟩ := Option.bind_eq_some_iff.mp found
          rw [lookUpFilter, partAt?, lookUpFilters_eq_map, List.getElem?_map, part]
          exact ih found
      | property m => cases found

/-! ## Comparisons at positions -/

/-- Lists that are related one by one have related items at every position. -/
theorem exists_getElem?_of_forall₂ {α β : Type} {r : α → β → Prop} {as : List α} {bs : List β}
    (each : List.Forall₂ r as bs) {i : Nat} {a : α} (at_i : as[i]? = some a) :
    ∃ b, bs[i]? = some b ∧ r a b := by
  obtain ⟨inside, rfl⟩ := List.getElem?_eq_some_iff.mp at_i
  have inside₂ : i < bs.length := each.length_eq ▸ inside
  exact ⟨bs[i], List.getElem?_eq_getElem inside₂, each.get inside inside₂⟩

theorem Filter.eq_of_reads_asAnswer {f g : Filter Value} (reads : Filter.Reads g.asAnswer f) :
    f = g := by
  obtain seen | ⟨_, _, _, seen, -⟩ := Filter.reads_iff.mp reads
  · cases seen
    rfl
  · cases seen

/-- A combination has a filter for each answer, read from it. -/
theorem forall₂_reads_of_compileCombination {op : Value} {answers : List Value} {f : Filter Value}
    (compiled : compileCombination op answers = .ok f) :
    ∃ operator fs, f = .composite operator fs none ∧ List.Forall₂ Filter.Reads answers fs := by
  obtain ⟨c, made, same⟩ := bind_eq_ok_iff.mp compiled
  cases same
  have accepted : CompositeFilter.check (.mapping (plainFields
      [("op", op), ("filters", .tuple answers)])) = .ok c := Checked.orInvalid_eq_ok_iff.mp made
  cases CompositeFilter.reads_of_check accepted with
  | taken seen => cases seen
  | fields seen operator sequence length each =>
      cases seen
      cases sequence
      exact ⟨_, _, rfl, List.forall₂_iff_zip.mpr ⟨length, fun pair => each _ pair⟩⟩

/-- A comparison inside of a unit becomes the property filter at its position, if the unit compiles
at all. By induction on the way; the units beside it may be any others. -/
theorem Value.compares_of_compile {n u answer : Value} {way : List Nat} {mark : Nat}
    {isAncestor : Bool} {property op operand : Value}
    (found : u.partAt? way = some (.comparison mark isAncestor property op operand))
    (compiled : (u.compile n).result = .ok answer) :
    ∃ (f : Filter Value) (m : PropertyFilter Value), answer = f.asAnswer ∧
      f.partAt? way = some (.property m) ∧ m.Compares n property op operand := by
  induction way generalizing u answer with
  | nil =>
      obtain rfl := Option.some.inj found
      rw [compile_comparison_result] at compiled
      obtain ⟨f, found, rfl⟩ := map_eq_ok_iff.mp compiled
      obtain ⟨m, rfl, compares⟩ := compileComparison_eq_ok_iff.mp found
      exact ⟨_, m, rfl, rfl, compares⟩
  | cons i way ih =>
      cases u with
      | combination mark' op' parts =>
          obtain ⟨p, part, found⟩ := Option.bind_eq_some_iff.mp found
          rw [compile_combination_result, bind_eq_ok_iff] at compiled
          obtain ⟨answers, each, made⟩ := compiled
          obtain ⟨f, combined, rfl⟩ := map_eq_ok_iff.mp made
          obtain ⟨operator, fs, rfl, reads⟩ := forall₂_reads_of_compileCombination combined
          -- The part answers a filter, and that is what is read from its answer.
          obtain ⟨a, answers_i, answered⟩ :=
            exists_getElem?_of_forall₂ (compileParts_eq_ok_iff.mp each) part
          obtain ⟨g, read_i, isRead⟩ := exists_getElem?_of_forall₂ reads answers_i
          obtain ⟨f, m, rfl, inside, compares⟩ := ih found answered
          obtain rfl := Filter.eq_of_reads_asAnswer isRead
          refine ⟨_, m, rfl, ?_, compares⟩
          rw [Filter.partAt?, read_i]
          exact inside
      | _ => cases found

/-! ## What a mapping holds -/

/-- A mapping from texts after some assignments, one after another by `setText`. -/
def setTexts (fields assignments : List (String × Value)) : List (String × Value) :=
  assignments.foldl (fun fields a => setText a.1 a.2 fields) fields

theorem Value.spelt_eq (entries : List (Value × Value)) :
    spelt entries = setTexts [] (entries.map fun e => (e.1.spelling?.getD "", e.2)) := by
  rw [setTexts, List.foldl_map]
  rfl

theorem lookUpMapping_setText (s : Sight) (key : String) (v : Value)
    (fields : List (String × Value)) :
    lookUpMapping s (setText key v fields) =
      setText key (v.lookUp s) (lookUpMapping s fields) := by
  induction fields with
  | nil => rfl
  | cons e rest ih =>
      obtain ⟨k, w⟩ := e
      by_cases same : k = key
      · simp [setText, lookUpMapping, same]
      · simp [setText, lookUpMapping, same, ih]

theorem lookUpMapping_setTexts (s : Sight) (fields assignments : List (String × Value)) :
    lookUpMapping s (setTexts fields assignments) =
      setTexts (lookUpMapping s fields) (lookUpMapping s assignments) := by
  induction assignments generalizing fields with
  | nil => rfl
  | cons a rest ih =>
      show lookUpMapping s (setTexts (setText a.1 a.2 fields) rest) = _
      rw [ih, lookUpMapping_setText]
      rfl

/-- `spelling?` shows at first glance, so keys are read the same wherever they are looked at. -/
theorem superficial_spelling? : Superficial Value.spelling? where
  object number look := congrArg Readings.spelling? (superficial_readings.object number look)
  lookUp ws steps way v placeless :=
    congrArg Readings.spelling? (superficial_readings.lookUp ws steps way v placeless)

namespace Workspace

/-- What entries are at a time: the texts that their keys spell, and what their values refer to.
Values are kept as references, since only the top level is copied. -/
def readEntries (ws : Workspace) (entries : List (Value × Value)) : List (String × Value) :=
  setTexts [] (entries.map fun e => ((ws.shown e.1).spelling?.getD "", e.2.lookUp .references))

/-- What the mapping at a place holds at a time, if there is one. -/
def entriesAt? (ws : Workspace) (number : Nat) : Option (List (String × Value)) :=
  match ws.places[number]? with
  | some (.mapping entries) => some (ws.readEntries entries)
  | _ => none

theorem entriesAt?_eq_some_iff {ws : Workspace} {number : Nat} {fields : List (String × Value)} :
    ws.entriesAt? number = some fields ↔ ∃ entries,
      ws.places[number]? = some (.mapping entries) ∧ ws.readEntries entries = fields := by
  unfold entriesAt?
  constructor
  · intro holds
    split at holds
    · next entries found => exact ⟨entries, found, Option.some.inj holds⟩
    · cases holds
  · intro kept
    obtain ⟨entries, found, holds⟩ := kept
    rw [found, ← holds]

/-- Entries that are looked at are read as what they are at the time. -/
theorem lookUpMapping_spelt {ws : Workspace} (direct : ws.Direct) (steps : Nat)
    (way : List (Nat × QueryPart)) (entries : List (Value × Value)) :
    lookUpMapping .references (Value.spelt (lookUpEntries (ws.sight (steps + 1) way) entries)) =
      ws.readEntries entries := by
  rw [Value.spelt_eq, lookUpMapping_setTexts, lookUpMapping, readEntries, lookUpMapping_eq_map,
    lookUpEntries_eq_map, List.map_map, List.map_map]
  refine congrArg (setTexts []) (List.map_congr_left fun e _ => ?_)
  simp only [Function.comp_apply]
  rw [superficial_spelling?.lookUp_eq direct rfl, Value.references_lookUp]

end Workspace

/-! ## Assignments -/

/-- Assignments of different texts that are new to a mapping come at its end. -/
theorem setTexts_of_nodup {fields assignments : List (String × Value)}
    (nodup : ((fields ++ assignments).map Prod.fst).Nodup) :
    setTexts fields assignments = fields ++ assignments := by
  induction assignments generalizing fields with
  | nil => rw [List.append_nil]; rfl
  | cons a rest ih =>
      have fresh : a.1 ∉ fields.map Prod.fst := by
        rw [List.map_append] at nodup
        exact fun among => (List.nodup_append.mp nodup).2.2 _ among _ (by simp) rfl
      show setTexts (setText a.1 a.2 fields) rest = _
      rw [setText_of_fresh fresh, ih (by simpa using nodup), List.append_assoc]
      rfl

theorem nodup_setText {fields : List (String × Value)} (nodup : (fields.map Prod.fst).Nodup)
    (key : String) (v : Value) : ((setText key v fields).map Prod.fst).Nodup := by
  by_cases among : key ∈ fields.map Prod.fst
  · have same : (setText key v fields).map Prod.fst = fields.map Prod.fst := by
      clear nodup
      induction fields with
      | nil => cases among
      | cons e rest ih =>
          obtain ⟨k, w⟩ := e
          rw [setText]
          split
          · rfl
          · next differ =>
              rw [List.map_cons, List.map_cons, ih]
              simpa [Ne.symm differ] using among
    rwa [same]
  · rw [setText_of_fresh among, List.map_append, List.nodup_append]
    exact ⟨nodup, List.pairwise_singleton _ _, fun a ha b hb same => among (by simp_all)⟩

namespace Workspace

/-- The text that is at the place of a value, or that the value is itself. -/
def text? (ws : Workspace) : Value → Option String
  | .object number _ => (ws.places[number]?).bind Value.asText?
  | v => v.asText?

/-- The mapping at a place holds some fields: its keys are texts, no two of them the same. It is the
invariant that a run of assignments is described by. -/
def HoldsFields (ws : Workspace) (number : Nat) (fields : List (String × Value)) : Prop :=
  (fields.map Prod.fst).Nodup ∧ ∃ entries, ws.places[number]? = some (.mapping entries) ∧
    List.Forall₂ (fun e f => ws.text? e.1 = some f.1 ∧ e.2.lookUp .references = f.2) entries fields

/-- The assignment that a step makes to a key of the mapping at a place, if it makes one. -/
def assignment? (ws : Workspace) (number : Nat) : Step → Option (String × Value)
  | .put target key v =>
      if target.place? = some number then (ws.text? key).map (·, v.lookUp .references) else none
  | _ => none

/-- The assignments that some steps make to keys of the mapping at a place. -/
def assignments (ws : Workspace) (number : Nat) : List Step → List (String × Value)
  | [] => []
  | s :: steps => (ws.assignment? number s).toList ++ (ws.step s).assignments number steps

/-- The keys that some steps assign to at a place are texts, each by the time of its step. -/
def AssignsTexts (ws : Workspace) (number : Nat) : List Step → Prop
  | [] => True
  | s :: steps =>
      (∀ target key v, s = .put target key v → target.place? = some number →
        (ws.text? key).isSome = true) ∧ (ws.step s).AssignsTexts number steps

variable {ws : Workspace} (direct : ws.Direct)

include direct

theorem shows_of_text? {k : Value} {t : String} (text : ws.text? k = some t) (steps : Nat)
    (way : List (Nat × QueryPart)) :
    (k.lookUp (ws.sight (steps + 1) way)).Shows (fun n => (ws.places[n]?).bind Value.asText?) ∧
      (k.lookUp (ws.sight (steps + 1) way)).asText? = some t := by
  -- A text has nothing inside of it, so it shows the same as soon as it is one.
  have noParts : ∀ {v : Value} {t : String}, v.place? = none → v.asText? = some t →
      ∀ p ∈ v.parts, p.Shows (fun n => (ws.places[n]?).bind Value.asText?) := by
    intro v t placeless text p among
    cases v with
    | text s => cases among
    | member m => cases among
    | object number look => cases placeless
    | _ => cases text
  cases ws.standing k with
  | free placeless =>
      have isText : k.asText? = some t := by
        cases k <;> first | exact text | cases placeless
      have shown : (k.lookUp (ws.sight (steps + 1) way)).asText? = some t := by
        rwa [superficial_asText?.lookUp _ _ _ _ placeless]
      rw [← lookUp_place? ws (steps + 1) way] at placeless
      exact ⟨.parts placeless (noParts placeless shown), shown⟩
  | lost missing =>
      rw [text?, missing] at text
      cases text
  | @kept number look w found =>
      rw [text?, found, Option.bind_some] at text
      have placeless := direct w (List.mem_of_getElem? found)
      have shown : (w.lookUp (ws.sight steps way)).asText? = some t := by
        rwa [superficial_asText?.lookUp _ _ _ _ placeless]
      rw [← lookUp_place? ws steps way] at placeless
      rw [lookUp_object_of_some found]
      refine ⟨.object placeless ?_ (.parts placeless (noParts placeless shown)), shown⟩
      rw [shown, found, Option.bind_some, text]

omit direct in
theorem put_append_of_isSome {target : Value} (isText : target.asText?.isSome = true)
    (key v : Value) :
    (∃ e, ws.put target key v = .error e) ∧ ∃ e, ws.append target v = .error e := by
  have seen := Value.content_of_isSome isText
  constructor
  · cases target with
    | object number look =>
        obtain ⟨s, seen⟩ | ⟨m, seen⟩ := seen <;>
        · rw [put, ← Value.content_object number look, seen]
          exact ⟨_, rfl⟩
    | _ => exact ⟨_, rfl⟩
  · unfold append
    obtain ⟨s, seen⟩ | ⟨m, seen⟩ := seen <;>
    · rw [seen]
      cases target.place? <;> exact ⟨_, rfl⟩

theorem step_places_of_text {n : Nat} {w : Value} (found : ws.places[n]? = some w)
    (isText : w.asText?.isSome = true) (s : Step) : (ws.step s).places[n]? = some w := by
  by_cases writes : ws.writes s = some n
  -- A step that writes to the place would have the text for its target, and fails for that.
  · have closed : ∀ target : Value, target.place? = some n →
        (ws.refresh target).asText?.isSome = true := by
      intro target at_
      obtain ⟨steps, depth⟩ := ws.exists_depth_eq
      cases target with
      | object number look =>
          obtain rfl := Option.some.inj at_
          rw [refresh, depth, superficial_asText?.lookUp_eq direct rfl, shown, found]
          exact isText
      | _ => cases at_
    cases s with
    | place v =>
        have inside := (List.getElem?_eq_some_iff.mp found).1
        rw [Workspace.writes, Option.some.injEq] at writes
        omega
    | put target key v =>
        obtain ⟨e, failed⟩ := (put_append_of_isSome (closed target writes) (ws.refresh key)
          (ws.refresh v)).1
        rw [step, failed]
        exact found
    | append target v =>
        obtain ⟨e, failed⟩ := (put_append_of_isSome (closed target writes) (ws.refresh v)
          (ws.refresh v)).2
        rw [step, failed]
        exact found
    | _ => cases writes
  · rw [step_places_of_not_written writes, found]

theorem text?_step {k : Value} {t : String} (text : ws.text? k = some t) (s : Step) :
    (ws.step s).text? k = some t := by
  cases ws.standing k with
  | free placeless => cases k <;> first | exact text | cases placeless
  | lost missing =>
      rw [text?, missing] at text
      cases text
  | kept found =>
      rw [text?, found, Option.bind_some] at text
      rw [text?, step_places_of_text direct found (Option.isSome_of_eq_some text), Option.bind_some,
        text]

omit direct in
theorem text?_lookUp (ws' : Workspace) {k : Value} {t : String} (text : ws'.text? k = some t)
    (steps : Nat) (way : List (Nat × QueryPart)) :
    ws'.text? (k.lookUp (ws.sight (steps + 1) way)) = some t := by
  cases k with
  | text s => exact text
  | member m => exact text
  | object number look => exact text
  | _ => cases text

omit direct in
/-- Setting a text in entries sets it in what they hold. -/
theorem forall₂_set {read : Value → Option String} {entries : List (Value × Value)}
    {fields : List (String × Value)}
    (each : List.Forall₂ (fun e f => read e.1 = some f.1 ∧ e.2.lookUp .references = f.2) entries
      fields) {key v : Value} {t : String} (text : read key = some t)
    (alike : ∀ e ∈ entries, ∀ u, read e.1 = some u → (e.1.alike key = true ↔ u = t)) :
    List.Forall₂ (fun e f => read e.1 = some f.1 ∧ e.2.lookUp .references = f.2)
      (Entries.set key v entries) (setText t (v.lookUp .references) fields) := by
  induction each with
  | nil => exact .cons ⟨text, rfl⟩ .nil
  | @cons e f _ _ first others ih =>
      obtain ⟨here, later⟩ := List.forall_mem_cons.mp alike
      have same := here f.1 first.1
      rw [Entries.set, setText]
      by_cases found : f.1 = t
      · rw [if_pos (same.mpr found), if_pos found]
        exact .cons ⟨first.1, rfl⟩ others
      · rw [if_neg (mt same.mp found), if_neg found]
        exact .cons first (ih later)

omit direct in
theorem checkHashable_of_isSome {k : Value} (isText : k.asText?.isSome = true) :
    k.checkHashable = .ok () := by
  have hashable : k.unhashable? = none := by
    induction k using Value.content.induct with
    | case1 _ look ih => exact ih isText
    | case2 k notObject =>
        cases k with
        | text s => rfl
        | member m => rfl
        | object _ look => exact absurd rfl (notObject _ look)
        | _ => cases isText
  rw [Value.checkHashable, hashable]

omit direct in
/-- A mapping that is set has the entries that show in it, and the one that is set. `put` looks at
the whole mapping to find the key. -/
theorem step_put_mapping {number : Nat} {entries : List (Value × Value)}
    (there : ws.places[number]? = some (.mapping entries)) {key : Value}
    (hashable : (ws.refresh key).checkHashable = .ok ()) (look : Unit → Value) (v : Value) :
    ∃ steps, (ws.step (.put (.object number look) key v)).places =
      ws.places.set number (.mapping (Entries.set (ws.refresh key) (ws.refresh v)
        (lookUpEntries (ws.sight (steps + 1) []) entries))) := by
  obtain ⟨steps, depth⟩ := ws.exists_depth_eq
  have target : ws.refresh (.object number look) =
      .object number fun _ => .mapping (lookUpEntries (ws.sight (steps + 1) []) entries) := by
    rw [refresh, depth, lookUp_object_of_some there]
    rfl
  refine ⟨steps, ?_⟩
  rw [step, target, Workspace.put]
  simp only [Value.content, hashable]
  rfl

/-- An assignment to a text sets it in what the mapping at a place holds. -/
theorem HoldsFields.put {number : Nat} {fields : List (String × Value)}
    (holds : ws.HoldsFields number fields) {key : Value} {t : String} (text : ws.text? key = some t)
    (look : Unit → Value) (v : Value) :
    (ws.step (.put (.object number look) key v)).HoldsFields number
      (setText t (v.lookUp .references) fields) := by
  obtain ⟨nodup, entries, there, each⟩ := holds
  refine ⟨nodup_setText nodup t _, ?_⟩
  obtain ⟨depth, depthEq⟩ := ws.exists_depth_eq
  have shows := fun {k t} (text : ws.text? k = some t) (steps : Nat) =>
    shows_of_text? direct text steps []
  have keyShown : (ws.refresh key).Shows (fun n => (ws.places[n]?).bind Value.asText?) ∧
      (ws.refresh key).asText? = some t := by
    rw [refresh, depthEq]
    exact shows text (depth + 1)
  obtain ⟨steps, places⟩ := step_put_mapping there
    (checkHashable_of_isSome (Option.isSome_of_eq_some keyShown.2)) look v
  have inside := (List.getElem?_eq_some_iff.mp there).1
  -- The entry is found by the text of its key, since the keys of the mapping are texts at places
  -- that still hold them.
  refine ⟨_, by rw [places, List.getElem?_set_self inside], ?_⟩
  rw [← references_refresh ws v]
  refine forall₂_set ?_ ?_ ?_
  · rw [lookUpEntries_eq_map, List.forall₂_map_left_iff]
    refine each.imp fun e f same => ⟨?_, ?_⟩
    · exact text?_lookUp _ (text?_step direct same.1 _) _ _
    · rw [Value.references_lookUp, same.2]
  · rw [refresh, depthEq]
    exact text?_lookUp _ (text?_step direct text _) _ _
  · intro e among u isText
    rw [lookUpEntries_eq_map] at among
    obtain ⟨before, inEntries, rfl⟩ := List.mem_map.mp among
    obtain ⟨i, at_i⟩ := List.mem_iff_getElem?.mp inEntries
    obtain ⟨f, -, old, -⟩ := exists_getElem?_of_forall₂ each at_i
    rw [text?_lookUp _ (text?_step direct old _), Option.some.injEq] at isText
    obtain ⟨shown, same⟩ := shows old steps
    rw [Value.alike, Value.alikeIn_texts shown keyShown.1 (fun _ none => by cases none)
      (Option.isSome_of_eq_some same), keyShown.2, same, Option.some.injEq, isText]
    exact eq_comm

/-- The step: what `assignment?` says is set in the mapping, and nothing else. -/
theorem HoldsFields.step {number : Nat} {fields : List (String × Value)}
    (holds : ws.HoldsFields number fields) {s : Step}
    (texts : ∀ target key v, s = .put target key v → target.place? = some number →
      (ws.text? key).isSome = true) :
    (ws.step s).HoldsFields number (setTexts fields (ws.assignment? number s).toList) := by
  -- What is not written to keeps its entries, and so do their texts.
  have unchanged : (ws.step s).places[number]? = ws.places[number]? →
      (ws.step s).HoldsFields number fields := by
    intro same
    obtain ⟨nodup, entries, there, each⟩ := holds
    refine ⟨nodup, entries, same.trans there, each.imp fun e f ⟨isText, value⟩ => ?_⟩
    exact ⟨text?_step direct isText s, value⟩
  by_cases writes : ws.writes s = some number
  · cases s with
    | place v =>
        obtain ⟨-, entries, there, -⟩ := holds
        have inside := (List.getElem?_eq_some_iff.mp there).1
        rw [Workspace.writes, Option.some.injEq] at writes
        omega
    | put target key v =>
        obtain ⟨t, isText⟩ := Option.isSome_iff_exists.mp (texts target key v rfl writes)
        rw [assignment?, if_pos (show target.place? = some number from writes), isText]
        cases target with
        | object n look =>
            obtain rfl := Option.some.inj writes
            exact holds.put direct isText look v
        | _ => cases writes
    | append target v =>
        refine unchanged ?_
        obtain ⟨-, entries, there, -⟩ := holds
        have failed : ∃ e, ws.append (ws.refresh target) (ws.refresh v) = .error e := by
          obtain ⟨steps, depth⟩ := ws.exists_depth_eq
          cases target with
          | object n look =>
              obtain rfl := Option.some.inj writes
              rw [refresh, depth, lookUp_object_of_some there]
              exact ⟨_, rfl⟩
          | _ => cases writes
        obtain ⟨e, failed⟩ := failed
        rw [Workspace.step, failed]
        rfl
    | _ => cases writes
  · have nothing : ws.assignment? number s = none := by
      cases s with
      | put target key v => exact if_neg writes
      | _ => rfl
    rw [nothing]
    exact unchanged (step_places_of_not_written writes)

/-- The run, by induction on the steps. A text at a place stays one (`text?_step`), so keys keep
their meaning. -/
theorem HoldsFields.run {number : Nat} {fields : List (String × Value)}
    (holds : ws.HoldsFields number fields) {steps : List Step}
    (texts : ws.AssignsTexts number steps) :
    (ws.run steps).HoldsFields number (setTexts fields (ws.assignments number steps)) := by
  induction steps generalizing ws fields with
  | nil => exact holds
  | cons s rest ih =>
      have later := ih (direct.step s) (holds.step direct texts.1) texts.2
      rwa [setTexts, setTexts, ← List.foldl_append] at later

omit direct in
theorem spelling?_shown {k : Value} {t : String} (text : ws.text? k = some t) :
    (ws.shown k).spelling? = some t := by
  have spelt : ∀ {v : Value}, v.asText? = some t → v.spelling? = some t := by
    intro v isText
    obtain ⟨s, seen⟩ | ⟨m, seen⟩ := Value.content_of_isSome (Option.isSome_of_eq_some isText) <;>
    · rw [← Value.asText?_content, seen] at isText
      rw [Value.spelling?, seen]
      exact isText
  cases ws.standing k with
  | free placeless =>
      rw [shown_of_place?_eq_none _ placeless]
      refine spelt ?_
      cases k <;> first | exact text | cases placeless
  | lost missing =>
      rw [text?, missing] at text
      cases text
  | kept found =>
      rw [text?, found, Option.bind_some] at text
      rw [shown, found]
      exact spelt text

omit direct in
/-- What a mapping from texts holds is read as it is. -/
theorem HoldsFields.entriesAt? {number : Nat} {fields : List (String × Value)}
    (holds : ws.HoldsFields number fields) : ws.entriesAt? number = some fields := by
  obtain ⟨nodup, entries, there, each⟩ := holds
  have read : (entries.map fun e => ((ws.shown e.1).spelling?.getD "", e.2.lookUp .references)) =
      fields := by
    clear there nodup
    induction each with
    | nil => rfl
    | cons first _ ih => rw [List.map_cons, ih, spelling?_shown first.1, first.2, Option.getD_some]
  refine entriesAt?_eq_some_iff.mpr ⟨entries, there, ?_⟩
  rw [readEntries, read]
  have fresh : (([] ++ fields).map Prod.fst).Nodup := nodup
  exact setTexts_of_nodup fresh

end Workspace


/-! ## Leaves of messages -/

/-- The top level of a property filter: its texts, and what its values are. -/
def PropertyFilter.entries (m : PropertyFilter Value) : List (String × Value) :=
  lookUpMapping .references m.value

/-- A message that is compiled of `units` units has a property filter with some entries at a
position inside of the unit `i`. The position is one among the filters that were composed, so a
single unit needs no case of its own. -/
def QueryMessage.LeafAt (m : QueryMessage Value) (units i : Nat) (way : List Nat)
    (entries : List (String × Value)) : Prop :=
  ∃ fs leaf, m.filter = Filter.compose fs ∧ fs.length = units ∧
    (fs[i]?).bind (·.partAt? way) = some (.property leaf) ∧ leaf.entries = entries

theorem Filter.lookUp_compose (s : Sight) (fs : List (Filter Value)) :
    lookUpFilter? s (compose fs) = compose (fs.map (lookUpFilter s)) := by
  match fs with
  | [] => rfl
  | [f] => rfl
  | f :: g :: rest =>
      simp only [compose, lookUpFilter?, lookUpFilter, lookUpFilters_eq_map, List.map_cons]

/-- Whenever a message is looked at, it shows the same entries at its leaves. -/
theorem QueryMessage.LeafAt.seen {m : QueryMessage Value} {units i : Nat} {way : List Nat}
    {entries : List (String × Value)} (leaf : m.LeafAt units i way entries) (ws : Workspace) :
    (lookUpQueryMessage (ws.sight ws.depth []) m).LeafAt units i way entries := by
  obtain ⟨fs, leaf, filter, number, found, rfl⟩ := leaf
  obtain ⟨steps, depth⟩ := ws.exists_depth_eq
  rw [depth]
  let sight := ws.sight (steps + 2) []
  refine ⟨fs.map (lookUpFilter sight), lookUpPropertyFilter sight leaf, ?_, ?_, ?_, ?_⟩
  · rw [← Filter.lookUp_compose, ← filter, lookUpQueryMessage]
  · rw [List.length_map, number]
  · obtain ⟨f, at_i, found⟩ := Option.bind_eq_some_iff.mp found
    rw [List.getElem?_map, at_i]
    exact Filter.partAt?_lookUp _ found
  · obtain ⟨property, op, value, mark⟩ := leaf
    rw [PropertyFilter.entries, PropertyFilter.entries, lookUpPropertyFilter, lookUpMapping_eq_map,
      lookUpMapping_eq_map, lookUpMapping_eq_map, List.map_map]
    refine List.map_congr_left fun e _ => ?_
    rw [Function.comp_apply, Value.references_lookUp]

/-- The units of a builder that compiles are compiled one by one. -/
theorem Query.units_of_compile {q : Query} {scope : Value} {m : QueryMessage Value}
    (compiled : (q.compile scope).result = .ok m) :
    ∃ n fs, List.Forall₂ (CompilesTo n) q.filters fs ∧ m.filter = Filter.compose fs := by
  rw [compile, compileState_result] at compiled
  obtain ⟨n, effective, -⟩ := bind_eq_ok_iff.mp compiled
  obtain ⟨fs, units, filter⟩ := (compilesAs_of_compile effective
    (by rwa [compile, compileState_result])).filter
  exact ⟨n, fs, units, filter⟩

namespace Workspace

/-- A builder gives a message: it is compiled to it, alone or in a request. -/
inductive Gives (ws : Workspace) (id : Nat) : QueryMessage Value → Prop where
  | compile {scope : Value} {m : QueryMessage Value}
      (compiled : (ws.compile id (ws.refresh scope)).1.result = .ok m) : Gives ws id m
  | request {scope projectId : Value} {m : RequestMessage Value}
      (requested : (ws.request id (ws.refresh scope) (ws.refresh projectId)).1.result = .ok m) :
      Gives ws id m.query

/-- What a builder gives is compiled of the units that it has recorded, as they are seen now, by
`CompilesTo`. -/
theorem Gives.exists_units {ws : Workspace} {id : Nat} {m : QueryMessage Value}
    (gives : ws.Gives id m) {q : Query} (recorded : ws.builders[id]? = some q) :
    ∃ n fs, List.Forall₂ (CompilesTo n)
      (q.filters.map (·.lookUp (ws.sight ws.depth [(id, .filters)]))) fs ∧
      m.filter = Filter.compose fs := by
  have seen : ws.builder? id = some (q.lookUp fun part => ws.sight ws.depth [(id, part)]) := by
    rw [builder?, recorded, Option.map_some]
  have compiled : ∃ scope,
      (Query.compile (q.lookUp fun part => ws.sight ws.depth [(id, part)]) scope).result =
        .ok m := by
    cases gives with
    | compile compiled =>
        rw [Workspace.compile, seen] at compiled
        exact ⟨_, compiled⟩
    | request requested =>
        rw [Workspace.request, seen] at requested
        exact Query.compile_of_request requested
  obtain ⟨scope, compiled⟩ := compiled
  rw [← lookUpItems_eq_map]
  exact Query.units_of_compile compiled

/-- What a builder gives shows what the operands at places hold now. -/
theorem Gives.leafAt {ws : Workspace} (direct : ws.Direct) {id : Nat} {m : QueryMessage Value}
    (gives : ws.Gives id m) {q : Query} (recorded : ws.builders[id]? = some q) {i : Nat}
    {way : List Nat} {mark : Nat} {isAncestor : Bool} {property op : Value} {number : Nat}
    {look : Unit → Value} (unit : (q.filters[i]?).bind (·.partAt? way) =
      some (.comparison mark isAncestor property op (.object number look)))
    {fields : List (String × Value)} (holds : ws.entriesAt? number = some fields) :
    m.LeafAt q.filters.length i way fields := by
  obtain ⟨steps, depth⟩ := ws.exists_depth_eq
  obtain ⟨n, fs, units, filter⟩ := gives.exists_units recorded
  rw [depth] at units
  obtain ⟨u, at_i, found⟩ := Option.bind_eq_some_iff.mp unit
  obtain ⟨f, at_i', -, answer, answers, isFilter⟩ := exists_getElem?_of_forall₂ units
    (i := i) (by rw [List.getElem?_map, at_i, Option.map_some])
  obtain ⟨g, leaf, rfl, inside, compares⟩ :=
    Value.compares_of_compile (Value.partAt?_lookUp _ found) answers
  cases isFilter
  obtain ⟨entries, there, rfl⟩ := entriesAt?_eq_some_iff.mp holds
  refine ⟨fs, leaf, filter, ?_, ?_, ?_⟩
  · rw [← units.length_eq, List.length_map]
  · rw [at_i']
    exact inside
  · obtain ⟨v, encoded, isMapping⟩ := Value.resolved?_eq_some_iff.mp compares.value
    rw [lookUp_object_of_some there] at encoded
    cases encoded
    obtain ⟨_, seen, -, value⟩ := checkMapping_eq_ok_iff.mp isMapping
    cases seen
    rw [PropertyFilter.entries, value]
    exact lookUpMapping_spelt direct steps _ entries

/-- An operand is resolved to what the mapping once held and what has been assigned to it since. -/
theorem Gives.leafAt_of_assignments {ws : Workspace} (direct : ws.Direct) {number : Nat}
    {fields : List (String × Value)} (holds : ws.HoldsFields number fields) {steps : List Step}
    (texts : ws.AssignsTexts number steps) {id : Nat} {q : Query} {m : QueryMessage Value}
    (recorded : (ws.run steps).builders[id]? = some q) (gives : (ws.run steps).Gives id m)
    {i : Nat} {way : List Nat} {mark : Nat} {isAncestor : Bool} {property op : Value}
    {look : Unit → Value} (unit : (q.filters[i]?).bind (·.partAt? way) =
      some (.comparison mark isAncestor property op (.object number look))) :
    m.LeafAt q.filters.length i way (setTexts fields (ws.assignments number steps)) :=
  gives.leafAt (direct.run steps) recorded unit (holds.run direct texts).entriesAt?

/-- Operands are resolved when a builder is compiled. Whoever shares a mapping, and whatever has
been done before, the message shows at the position of every comparison with the mapping what it
holds now (`entriesAt?`), and by `LeafAt.seen` it goes on to show that whatever is done later. -/
theorem leafAt_of_compile {before : List Step} {id : Nat} {q : Query} {m : QueryMessage Value}
    (recorded : (empty.run before).builders[id]? = some q) (gives : (empty.run before).Gives id m)
    {i : Nat} {way : List Nat} {mark : Nat} {isAncestor : Bool} {property op : Value} {number : Nat}
    {look : Unit → Value} (unit : (q.filters[i]?).bind (·.partAt? way) =
      some (.comparison mark isAncestor property op (.object number look)))
    {fields : List (String × Value)}
    (holds : (empty.run before).entriesAt? number = some fields) :
    m.LeafAt q.filters.length i way fields ∧
    ∀ after, let later := (empty.run before).run after
      (lookUpQueryMessage (later.sight later.depth []) m).LeafAt q.filters.length i way fields := by
  have shows := gives.leafAt (direct_empty.run before) recorded unit holds
  exact ⟨shows, fun after => shows.seen _⟩

/-! ## A shared mapping -/

/-- A comparison of a property with a mapping that is at the first place. -/
def sharing (mark : Nat) (property : String) : Value :=
  .comparison mark false (.text property) (.member (.property .equal)) (.object 0 fun _ => .none)

/-- A caller puts a mapping in a condition and in two more of a copy, and sets keys of the mapping
when the original has been compiled. -/
def sharingSteps : List Step :=
  [.place (.ofTexts [("integerValue", .text "1")]), .newBuilder .none,
   .call 0 (.filterBy (sharing 0 "age")), .copy 0,
   .call 1 (.filterBy
     (.combination 2 (.member (.composite .or)) [sharing 0 "age", sharing 1 "size"])),
   .compile 0 .none, .put (.object 0 fun _ => .none) (.text "integerValue") (.text "2"),
   .put (.object 0 fun _ => .none) (.text "note") (.bool true)]

/-- What the mapping holds by then. -/
def sharingFields : List (String × Value) := [("integerValue", .text "2"), ("note", .bool true)]

/-- The message that the copy compiles to by then. -/
def sharingMessage : QueryMessage Value :=
  let leaf (name : String) : Filter Value := .property ⟨⟨name⟩, .equal, sharingFields, none⟩
  ⟨[], [], some (.composite .and [leaf "age", .composite .or [leaf "age", leaf "size"] none] none),
    [], [], none, none, 0⟩

theorem compile_sharing : ((empty.run sharingSteps).compile 1
    ((empty.run sharingSteps).refresh .none)).1.result = .ok sharingMessage := by
  rfl

theorem recorded_sharing : ∃ q look, (empty.run sharingSteps).builders[1]? = some q ∧
    q.filters.length = 2 ∧ (q.filters[1]?).bind (·.partAt? [1]) = some (.comparison 1 false
      (.text "size") (.member (.property .equal)) (.object 0 look)) :=
  ⟨_, _, rfl, rfl, rfl⟩

/-- Keys are set again when the copy has been compiled, but the message keeps its entries. -/
theorem leafAt_of_compile_sharing :
    let later := (empty.run sharingSteps).run
      [.put (.object 0 fun _ => .none) (.text "integerValue") (.text "3"), .compile 1 .none]
    (empty.run sharingSteps).Gives 1 sharingMessage ∧
      (empty.run sharingSteps).entriesAt? 0 = some sharingFields ∧
      later.entriesAt? 0 = some [("integerValue", .text "3"), ("note", .bool true)] ∧
      sharingMessage.LeafAt 2 1 [1] sharingFields ∧
      (lookUpQueryMessage (later.sight later.depth []) sharingMessage).LeafAt 2 1 [1]
        sharingFields := by
  intro later
  have gives : (empty.run sharingSteps).Gives 1 sharingMessage := .compile compile_sharing
  obtain ⟨q, look, recorded, two, unit⟩ := recorded_sharing
  have holds : (empty.run sharingSteps).entriesAt? 0 = some sharingFields := by
    rfl
  have holdsLater :
      later.entriesAt? 0 = some [("integerValue", .text "3"), ("note", .bool true)] := by
    rfl
  obtain ⟨shows, goesOn⟩ := leafAt_of_compile recorded gives unit holds
  rw [two] at shows goesOn
  exact ⟨gives, holds, holdsLater, shows, goesOn _⟩

end Workspace

end EntityQuery
