import Mathlib.Data.List.Find
import Mathlib.Data.List.Perm.Subperm
import EntityQuery.Proofs.RoundTrip
import EntityQuery.Proofs.Snapshot

/-!
# Nothing is lost in a body

Two messages of one class whose bodies are equal are equal themselves. Bodies are compared as the
mappings that they are, so neither the order of entries nor absent fields may matter, and all that
tells two messages apart has to be found in entries.

* `alikeEntries_iff` and `alikeMapping_iff` say of a comparison of mappings what it asks of each
  entry; `lookup_of_alike` follows a field that may be absent through a comparison of bodies.
* Values at places are compared by the places first. `Value.Shows` says that there is one text, or
  none, at each place, wherever it is met; without that a place would not be worth comparing.
* `Value.alikeIn_of_encoded` is the induction over JSON data and `Filter.alike_of_encoded` the one
  over filters; `Message.equal_of_body` puts them together for the messages of all classes, and
  reads cursors back.
-/

namespace EntityQuery

/-! ## Comparisons of mappings -/

/-- `alikeEntries` looks up every entry of one mapping in the other. With `TextKeys` there is one
candidate at most. -/
theorem alikeEntries_iff {met : List (Nat × Nat)} {entries others : List (Value × Value)} :
    alikeEntries met entries others = true ↔
      ∀ e ∈ entries, ∃ other,
        others.find? (fun other => e.1.alikeIn met other.1) = some other ∧
          e.2.alikeIn met other.2 = true := by
  induction entries with
  | nil => simp [alikeEntries]
  | cons e rest ih =>
      obtain ⟨k, v⟩ := e
      rw [alikeEntries, Bool.and_eq_true, ih, List.forall_mem_cons]
      cases others.find? (fun other => k.alikeIn met other.1) <;> simp

/-- The value of a key is that of the first entry with the key. -/
theorem lookup_eq_find? {α : Type} (key : String) (entries : List (String × α)) :
    entries.lookup key = (entries.find? fun other => key == other.1).map Prod.snd := by
  induction entries with
  | nil => rfl
  | cons other rest ih =>
      obtain ⟨k, w⟩ := other
      cases same : key == k <;> simp [List.lookup_cons, same, ih]

/-- What is found for a key is the value of an entry. -/
theorem mem_of_lookup {α : Type} {key : String} {a : α} {entries : List (String × α)}
    (found : entries.lookup key = some a) : (key, a) ∈ entries := by
  obtain ⟨before, after, rfl, -⟩ := List.lookup_eq_some_iff.mp found
  simp

/-- What is found for a key has it among the keys. -/
theorem mem_keys_of_lookup {α : Type} {key : String} {a : α} {entries : List (String × α)}
    (found : entries.lookup key = some a) : key ∈ entries.map Prod.fst :=
  List.mem_map.mpr ⟨(key, a), mem_of_lookup found, rfl⟩

theorem alikeMapping_iff {met : List (Nat × Nat)} {value others : List (String × Value)} :
    alikeMapping met value others = true ↔
      ∀ e ∈ value, ∃ w, others.lookup e.1 = some w ∧ e.2.alikeIn met w = true := by
  induction value with
  | nil => simp [alikeMapping]
  | cons e rest ih =>
      obtain ⟨k, v⟩ := e
      rw [alikeMapping, Bool.and_eq_true, ih, List.forall_mem_cons, lookup_eq_find?]
      cases others.find? (fun other => k == other.1) <;> simp

/-- Mappings that are given by their texts are alike if they are as long as each other and one is
found in the other. -/
theorem Value.alikeIn_ofTexts {met : List (Nat × Nat)} {fields others : List (String × Value)} :
    (Value.ofTexts fields).alikeIn met (.ofTexts others) = true ↔
      fields.length = others.length ∧ alikeMapping met fields others = true := by
  have entries : alikeEntries met (plainFields fields) (plainFields others) =
      alikeMapping met fields others := by
    induction fields with
    | nil => rfl
    | cons e rest ih =>
        obtain ⟨k, v⟩ := e
        have key : ((fun other : Value × Value => (Value.text k).alikeIn met other.1) ∘
            fun e : String × Value => (Value.text e.1, e.2)) = fun other => k == other.1 := by
          funext other
          simp [alikeIn, asText?, Bool.beq_comm]
        simp only [plainFields, List.map_cons, alikeEntries, alikeMapping] at ih ⊢
        rw [ih, List.find?_map, key]
        cases others.find? (fun other => k == other.1) <;> rfl
  simp only [plainFields] at entries
  simp [ofTexts, alikeIn, content, entries]

/-- Two values that are alike, or twice nothing: how optional fields of bodies compare. -/
def Alike? (met : List (Nat × Nat)) : Option Value → Option Value → Prop :=
  Option.Rel fun v w => v.alikeIn met w = true

/-- A field of a body is there in a body that is alike, with a value that is alike, and a field that
one of them lacks the other one lacks as well. Entry counts agree, so none of the second body is
left over. -/
theorem lookup_of_alike {met : List (Nat × Nat)} {fields others : List (String × Value)}
    (nodup : (fields.map Prod.fst).Nodup)
    (same : (Value.ofTexts fields).alikeIn met (.ofTexts others) = true) {key : String}
    {x y : Option Value} (mine : fields.lookup key = x) (theirs : others.lookup key = y) :
    Alike? met x y := by
  subst mine theirs
  obtain ⟨length, among⟩ := Value.alikeIn_ofTexts.mp same
  rw [alikeMapping_iff] at among
  have keys : fields.map Prod.fst ⊆ others.map Prod.fst := by
    intro k hk
    obtain ⟨e, he, rfl⟩ := List.mem_map.mp hk
    obtain ⟨w, found, -⟩ := among e he
    exact mem_keys_of_lookup found
  -- There are as many keys in the one as in the other, so they are the same keys.
  have perm : (fields.map Prod.fst).Perm (others.map Prod.fst) :=
    (nodup.subperm keys).perm_of_length_le (by simp [length])
  cases found : fields.lookup key with
  | some v =>
      obtain ⟨w, there, alike⟩ := among (key, v) (mem_of_lookup found)
      rw [there]
      exact .some alike
  | none =>
      cases there : others.lookup key with
      | none => exact .none
      | some w =>
          obtain ⟨e, he, rfl⟩ := List.mem_map.mp (perm.mem_iff.mpr (mem_keys_of_lookup there))
          rw [List.lookup_eq_none_iff] at found
          simpa using found e he

/-! ## Values at places -/

/-- Inside of a value, there is one and the same text at each place wherever it is met, or never a
text. What is at a place is not at another one. Without this, `alikeIn` could take two places for
equal because they have been met. -/
inductive Value.Shows (texts : Nat → Option String) : Value → Prop where
  | parts {v : Value} (placeless : v.place? = Option.none)
      (each : ∀ p ∈ v.parts, Shows texts p) : Shows texts v
  | object {number : Nat} {look : Unit → Value} (direct : (look ()).place? = Option.none)
      (text : (look ()).asText? = texts number) (seen : Shows texts (look ())) :
      Shows texts (.object number look)

/-- Pairs of places at which there are the same texts. The pairs in `met` are those that `alikeIn`
is comparing already. -/
def Abreast (texts : Nat → Option String) (met : List (Nat × Nat)) : Prop :=
  ∀ p ∈ met, texts p.1 = texts p.2

section

variable {texts : Nat → Option String} {met : List (Nat × Nat)}

/-- The parts of what has no place are shown as the whole is. -/
theorem Value.Shows.of_mem {v p : Value} (h : v.Shows texts) (placeless : v.place? = Option.none)
    (among : p ∈ v.parts) : p.Shows texts := by
  cases h with
  | parts _ each => exact each p among
  | object => cases placeless

/-- A text at a place is the text of the place. -/
theorem Value.Shows.asText? {number : Nat} {look : Unit → Value}
    (h : (Value.object number look).Shows texts) : (look ()).asText? = texts number := by
  cases h with
  | parts placeless _ => cases placeless
  | object _ text _ => exact text

/-- What has no place is compared with what is seen. -/
theorem Value.alikeIn_content {v : Value} (placeless : v.place? = Option.none) (w : Value) :
    v.alikeIn met w.content = v.alikeIn met w := by
  induction w using Value.content.induct with
  | case1 number look ih => rw [alikeIn_object placeless, content_object, ih]
  | case2 w notObject =>
      cases w with
      | object number look => exact absurd rfl (notObject number look)
      | _ => rfl

/-- Texts are `alikeIn` just if they are the same, at places and elsewhere. That is what keys of
mappings are compared by. -/
theorem Value.alikeIn_texts {k k' : Value} (shown : k.Shows texts) (shown' : k'.Shows texts)
    (met_abreast : Abreast texts met) (isText : k.asText?.isSome = true) :
    k.alikeIn met k' = true ↔ k'.asText? = k.asText? := by
  have free : ∀ (met : List (Nat × Nat)) {v : Value}, v.place? = Option.none →
      v.asText?.isSome = true → (v.alikeIn met k' = true ↔ k'.asText? = v.asText?) := by
    intro met v placeless isText
    cases v with
    | text s => simp [alikeIn, asText?]
    | member m => simp [alikeIn, asText?]
    | object number look => cases placeless
    | _ => cases isText
  cases shown with
  | parts placeless _ => exact free met placeless isText
  | @object number look direct text _ =>
      have seen := free met direct isText
      cases k' with
      | object number' look' =>
          have step := free ((number, number') :: met) direct isText
          have text' := shown'.asText?
          rw [alikeIn, Bool.or_eq_true, Bool.or_eq_true, step]
          constructor
          · rintro ((same | known) | alike)
            · obtain rfl := eq_of_beq same
              exact text'.trans text.symm
            · have := met_abreast (number, number') (by simpa using known)
              exact text'.trans (this.symm.trans text.symm)
            · exact alike
          · exact Or.inr
      | _ => exact seen

/-! ## JSON data -/

theorem Value.place?_content (v : Value) : v.content.place? = Option.none := by
  cases v with
  | object _ look => exact place?_content (look ())
  | _ => rfl

theorem Value.content_of_placeless {v : Value} (placeless : v.place? = Option.none) :
    v.content = v := by
  cases v with
  | object _ _ => cases placeless
  | _ => rfl

/-- What is seen of a value is encoded as the value is. -/
theorem Value.encoded_content (v : Value) : v.content.encoded = v.encoded := by
  cases v with
  | object _ look => exact encoded_content (look ())
  | _ => rfl

theorem Value.IsJson.content {inside : List Nat} {v : Value} (h : v.IsJson inside) :
    ∃ inside', v.content.IsJson inside' := by
  induction h with
  | none => exact ⟨[], .none⟩
  | bool b => exact ⟨[], .bool b⟩
  | int i => exact ⟨[], .int i⟩
  | text s => exact ⟨[], .text s⟩
  | list parts => exact ⟨_, .list parts⟩
  | mapping keys parts => exact ⟨_, .mapping keys parts⟩
  | object _ _ ih => exact ih

/-- What is seen of a value shows the same texts at places as the value. -/
theorem Value.Shows.content {v : Value} (h : v.Shows texts) : v.content.Shows texts := by
  induction h with
  | parts placeless each =>
      rw [Value.content_of_placeless placeless]
      exact .parts placeless each
  | object _ _ _ ih => exact ih

/-- JSON data is encoded as a text exactly if it is one. -/
theorem Value.IsJson.asText?_encoded {inside : List Nat} {v : Value} (h : v.IsJson inside) :
    v.encoded.asText? = v.asText? := by
  induction h with
  | object _ _ ih => exact ih
  | _ => rfl

/-- JSON data whose encoded forms are alike are texts together, and then the same one. -/
theorem Value.IsJson.asText?_eq {inside inside' : List Nat} {v w : Value} (hv : v.IsJson inside)
    (hw : w.IsJson inside') (same : v.encoded.alikeIn met w.encoded = true) :
    v.asText? = w.asText? := by
  rw [← hw.asText?_encoded]
  have placeless := place?_encoded w
  generalize w.encoded = u at same placeless
  induction hv with
  | object _ _ ih => exact ih same
  | text s =>
      simp only [encoded, alikeIn, beq_iff_eq] at same
      exact same.symm
  | _ =>
      cases u with
      | object _ _ => cases placeless
      | text s => simp [encoded, ofTexts, alikeIn, isNone, isInt, Value.content] at same
      | member m => simp [encoded, ofTexts, alikeIn, isNone, isInt, Value.content] at same
      | _ => rfl

/-- The step at a place: what has none is alike to a value if it is alike to what is seen of it.
Encoded forms have no places, so `met'` never grows on their side while `met` does. -/
theorem Value.alikeIn_of_content {inside : List Nat} {met' : List (Nat × Nat)} {v w : Value}
    (placeless : v.place? = Option.none) (hw : w.IsJson inside) (shown : w.Shows texts)
    (same : v.encoded.alikeIn met' w.encoded = true)
    (seen : ∀ {u inside'}, u.IsJson inside' → u.place? = Option.none → u.Shows texts →
      v.encoded.alikeIn met' u.encoded = true → v.alikeIn met u = true) :
    v.alikeIn met w = true := by
  obtain ⟨_, content⟩ := hw.content
  rw [← alikeIn_content placeless]
  exact seen content (place?_content w) shown.content (by rwa [encoded_content])

/-- Items are alike if their encoded forms are, and if that makes each two of them alike. -/
theorem alikeItems_of_encoded {met' : List (Nat × Nat)} {items others : List Value}
    (each : ∀ v ∈ items, ∀ w ∈ others,
      v.encoded.alikeIn met' w.encoded = true → v.alikeIn met w = true)
    (same : alikeItems met' (encodedItems items) (encodedItems others) = true) :
    alikeItems met items others = true := by
  induction items generalizing others with
  | nil => cases others <;> simp_all [encodedItems, alikeItems]
  | cons v rest ih =>
      cases others with
      | nil => simp [encodedItems, alikeItems] at same
      | cons w others =>
          simp only [encodedItems, alikeItems, Bool.and_eq_true] at same ⊢
          refine ⟨each v (by simp) w (by simp) same.1, ih ?_ same.2⟩
          exact fun v hv w hw => each v (by simp [hv]) w (by simp [hw])

/-- The entries of a mapping are found in another one if their encoded forms are, and if that makes
each two values alike. -/
theorem alikeEntries_of_encoded {met' : List (Nat × Nat)} {entries others : List (Value × Value)}
    (keys : TextKeys entries) (keys' : TextKeys others)
    (shown : ∀ e ∈ entries, e.1.Shows texts) (shown' : ∀ e ∈ others, e.1.Shows texts)
    (abreast : Abreast texts met)
    (each : ∀ e ∈ entries, ∀ other ∈ others,
      e.2.encoded.alikeIn met' other.2.encoded = true → e.2.alikeIn met other.2 = true)
    (same : alikeMapping met' (encodedEntries entries) (encodedEntries others) = true) :
    alikeEntries met entries others = true := by
  rw [alikeEntries_iff]
  intro e he
  rw [encodedEntries_eq, encodedEntries_eq, alikeMapping_iff] at same
  obtain ⟨w, found, alike⟩ := same (e.1.textOf, e.2.encoded)
    (List.mem_map.mpr ⟨(e.1.textOf, e.2), List.mem_map.mpr ⟨e, he, rfl⟩, rfl⟩)
  -- The entry with the same text is the one that is found by the key itself.
  have text := Value.asText?_eq_some_textOf (keys.texts e he)
  have finds : others.find? (fun other => e.1.alikeIn met other.1) =
      others.find? (fun other => other.1.asText? == some e.1.textOf) := by
    refine List.find?_congr fun other ho => ?_
    rw [Bool.eq_iff_iff, Value.alikeIn_texts (shown e he) (shown' other ho) abreast
      (keys.texts e he), text, beq_iff_eq]
  obtain ⟨f, hf, entry⟩ := List.mem_map.mp (mem_of_lookup found)
  obtain ⟨other, ho, rfl⟩ := List.mem_map.mp hf
  obtain ⟨textSame, rfl⟩ := Prod.mk.inj entry
  refine ⟨other, ?_, each e he other ho alike⟩
  rw [finds, show e.1.textOf = other.1.textOf from textSame.symm]
  exact keys'.find?_eq ho

/-- JSON data is alike if its encoded forms are. The induction is on `IsJson` of the first value,
with the other one and both lists of pairs left open. -/
theorem Value.alikeIn_of_encoded {inside inside' : List Nat} {met' : List (Nat × Nat)}
    {v w : Value} (hv : v.IsJson inside) (hw : w.IsJson inside') (shown : v.Shows texts)
    (shown' : w.Shows texts) (abreast : Abreast texts met)
    (same : v.encoded.alikeIn met' w.encoded = true) : v.alikeIn met w = true := by
  induction hv generalizing inside' met w with
  | none | bool _ | int _ | text _ =>
      refine alikeIn_of_content rfl hw shown' same fun hu placeless _ same => ?_
      cases hu with
      | object => cases placeless
      | list | mapping =>
          simp [encoded, ofTexts, alikeIn, isNone, isInt, asText?] at same
      | _ => exact same
  | @list _ items _ ih =>
      refine alikeIn_of_content rfl hw shown' same fun hu placeless shown' same => ?_
      cases hu with
      | object => cases placeless
      | @list _ others parts' =>
          refine alikeItems_of_encoded (fun v hv w hw => ?_) same
          exact ih v hv (parts' w hw) (shown.of_mem rfl hv) (shown'.of_mem rfl hw) abreast
      | _ => simp [encoded, ofTexts, alikeIn, Value.content] at same
  | @mapping _ entries keys _ ih =>
      refine alikeIn_of_content rfl hw shown' same fun hu placeless shown' same => ?_
      cases hu with
      | object => cases placeless
      | @mapping _ others keys' parts' =>
          have key : ∀ {entries : List (Value × Value)} {e}, e ∈ entries →
              e.1 ∈ (Value.mapping entries).parts := fun he =>
            List.mem_append_left _ (List.mem_map_of_mem he)
          have value : ∀ {entries : List (Value × Value)} {e}, e ∈ entries →
              e.2 ∈ (Value.mapping entries).parts := fun he =>
            List.mem_append_right _ (List.mem_map_of_mem he)
          -- Two mappings with distinct keys are alike if they are as long as each other and the one
          -- is found in the other, so one direction is enough.
          obtain ⟨length, among⟩ := alikeIn_ofTexts.mp same
          have found := alikeEntries_of_encoded keys keys'
            (fun e he => shown.of_mem rfl (key he)) (fun e he => shown'.of_mem rfl (key he))
            abreast
            (fun e he other ho => ih e he (parts' other ho) (shown.of_mem rfl (value he))
              (shown'.of_mem rfl (value ho)) abreast)
            among
          simpa [alikeIn, Value.content, found, length_encodedEntries] using length
      | _ => simp [encoded, ofTexts, alikeIn, Value.content] at same
  | @object _ number look outside seen ih =>
      have text := shown.asText?
      have shownSeen : (look ()).Shows texts := by
        cases shown with
        | parts placeless _ => cases placeless
        | object _ _ seen => exact seen
      cases w with
      | object number' look' =>
          -- The two places are met from here on, which is safe only if there are the same texts at
          -- them.
          have textSame : texts number = texts number' := by
            have := seen.asText?_eq hw same
            rw [← text, ← shown'.asText?]
            exact this
          have abreast' : Abreast texts ((number, number') :: met) :=
            List.forall_mem_cons.mpr ⟨textSame, abreast⟩
          have step := ih hw shownSeen shown' abreast' same
          rw [alikeIn, step, Bool.or_true]
      | _ => exact ih hw shownSeen shown' abreast same

end

/-! ## Messages without data -/

section

variable {met : List (Nat × Nat)}

/-- Spellings tell operators apart, since each is read back from its own. -/
theorem PropertyOperator.spelling_inj {o o' : PropertyOperator} (h : o.spelling = o'.spelling) :
    o = o' := by
  have := ofSpelling?_spelling o
  rw [h, ofSpelling?_spelling] at this
  exact (Option.some.inj this).symm

theorem CompositeOperator.spelling_inj {o o' : CompositeOperator}
    (h : o.spelling = o'.spelling) : o = o' := by
  have := ofSpelling?_spelling o
  rw [h, ofSpelling?_spelling] at this
  exact (Option.some.inj this).symm

theorem Direction.spelling_inj {d d' : Direction} (h : d.spelling = d'.spelling) : d = d' := by
  have := ofSpelling?_spelling d
  rw [h, ofSpelling?_spelling] at this
  exact (Option.some.inj this).symm

theorem Value.alikeIn_text {s t : String} :
    (Value.text s).alikeIn met (.text t) = true ↔ s = t := by
  rw [alikeIn, asText?, beq_iff_eq, Option.some.injEq]
  exact eq_comm

theorem Value.alikeIn_int {n n' : Int} : (Value.int n).alikeIn met (.int n') = true ↔ n = n' := by
  rw [alikeIn, isInt, beq_iff_eq]

/-- A body with the fields of another one has values that are alike in them. -/
theorem alikeIn_fields {name : String} {v w : Value} {fields others : List (String × Value)}
    (same : (Value.ofTexts fields).alikeIn met (.ofTexts others) = true)
    (mine : (name, v) ∈ fields) (theirs : others.lookup name = some w) :
    v.alikeIn met w = true := by
  obtain ⟨_, found, alike⟩ :=
    alikeMapping_iff.mp (Value.alikeIn_ofTexts.mp same).2 (name, v) mine
  obtain rfl := Option.some.inj (theirs.symm.trans found)
  exact alike

theorem KindExpression.eq_of_body {m m' : KindExpression}
    (same : m.body.alikeIn met m'.body = true) : m = m' := by
  have name := Value.alikeIn_text.mp (alikeIn_fields same (.head _) rfl)
  exact congrArg KindExpression.mk name

theorem PropertyReference.eq_of_body {m m' : PropertyReference}
    (same : m.body.alikeIn met m'.body = true) : m = m' := by
  have name := Value.alikeIn_text.mp (alikeIn_fields same (.head _) rfl)
  exact congrArg PropertyReference.mk name

theorem Projection.eq_of_body {m m' : Projection} (same : m.body.alikeIn met m'.body = true) :
    m = m' := by
  have property := PropertyReference.eq_of_body (alikeIn_fields same (.head _) rfl)
  exact congrArg Projection.mk property

theorem PropertyOrder.eq_of_body {m m' : PropertyOrder}
    (same : m.body.alikeIn met m'.body = true) : m = m' := by
  have property := PropertyReference.eq_of_body (alikeIn_fields same (.head _) rfl)
  have direction := Value.alikeIn_text.mp (alikeIn_fields same (.tail _ (.head _)) rfl)
  exact congrArg₂ PropertyOrder.mk property (Direction.spelling_inj direction)

/-- Sequences of bodies that are alike are the bodies of the same sequence. All list fields of
`QueryMessage` but the filter are of this kind. -/
theorem eq_of_sequence {α : Type} {body : α → Value}
    (eq_of_body : ∀ {a b : α}, (body a).alikeIn met (body b) = true → a = b) {items others : List α}
    (same : Alike? met (some (.list (items.map body))) (some (.list (others.map body)))) :
    items = others := by
  obtain ⟨same⟩ := same
  simp only [Value.alikeIn, Value.content] at same
  induction items generalizing others with
  | nil => cases others <;> simp_all [alikeItems]
  | cons a rest ih =>
      cases others with
      | nil => simp [alikeItems] at same
      | cons b others =>
          simp only [List.map_cons, alikeItems, Bool.and_eq_true] at same
          rw [eq_of_body same.1, ih same.2]

/-- An optional field that is alike in two bodies is the same in both. -/
theorem eq_of_optional {α : Type} {body : α → Value}
    (eq_of_body : ∀ {a b : α}, (body a).alikeIn met (body b) = true → a = b) {x y : Option α}
    (same : Alike? met (x.map body) (y.map body)) : x = y := by
  cases x <;> cases y <;> cases same
  · rfl
  · rename_i a b alike
    rw [eq_of_body alike]

theorem PartitionId.eq_of_body {m m' : PartitionId} (same : m.body.alikeIn met m'.body = true) :
    m = m' := by
  have nodup : ∀ m : PartitionId, ((optionalField Field.projectId Value.text m.projectId ++
      optionalField Field.namespaceId .text m.namespaceId).map Prod.fst).Nodup := by
    rintro ⟨_ | _, _ | _⟩ <;> simp [optionalField, Field.projectId, Field.namespaceId]
  have lookups : ∀ m : PartitionId,
      (optionalField Field.projectId Value.text m.projectId ++
        optionalField Field.namespaceId .text m.namespaceId).lookup "projectId" =
          m.projectId.map .text ∧
      (optionalField Field.projectId Value.text m.projectId ++
        optionalField Field.namespaceId .text m.namespaceId).lookup "namespaceId" =
          m.namespaceId.map .text := by
    rintro ⟨_ | _, _ | _⟩ <;> exact ⟨rfl, rfl⟩
  have project := lookup_of_alike (nodup m) same (lookups m).1 (lookups m').1
  have namespaceId := lookup_of_alike (nodup m) same (lookups m).2 (lookups m').2
  exact congrArg₂ PartitionId.mk (eq_of_optional Value.alikeIn_text.mp project)
    (eq_of_optional Value.alikeIn_text.mp namespaceId)

/-! ## Compiled queries -/

/-- The entries of the body of a compiled query whose filter has the given body. -/
def QueryMessage.bodyFields (m : QueryMessage Value) (filter : Option Value) :
    List (String × Value) :=
  [("kind", .list (m.kinds.map KindExpression.body)),
    ("projection", .list (m.projections.map Projection.body))] ++
  optionalField Field.filter id filter ++
  [("order", .list (m.orders.map PropertyOrder.body)),
    ("distinctOn", .list (m.distinctOn.map PropertyReference.body))] ++
  optionalField Field.startCursor (fun b => .text (Text.Base64.encode b)) m.startCursor ++
  optionalField Field.limit .int m.limit ++ [("offset", .int m.offset)]

theorem QueryMessage.bodyOf_eq (m : QueryMessage Value) (filter : Option Value) :
    m.bodyOf filter = .ofTexts (m.bodyFields filter) := rfl

theorem QueryMessage.nodup_bodyFields (m : QueryMessage Value) (filter : Option Value) :
    ((m.bodyFields filter).map Prod.fst).Nodup := by
  obtain ⟨kinds, projections, _, orders, distinctOn, startCursor, limit, offset⟩ := m
  cases filter <;> cases startCursor <;> cases limit <;>
    simp [bodyFields, optionalField, Field.filter, Field.startCursor, Field.limit, Spelling.same]

/-- What is found under each name in the body of a compiled query. Optional fields that are absent
are left out, so this is where `none` comes from. -/
theorem QueryMessage.lookup_bodyFields (m : QueryMessage Value) (filter : Option Value) :
    let fields := m.bodyFields filter
    fields.lookup "kind" = some (.list (m.kinds.map KindExpression.body)) ∧
    fields.lookup "projection" = some (.list (m.projections.map Projection.body)) ∧
    fields.lookup "filter" = filter ∧
    fields.lookup "order" = some (.list (m.orders.map PropertyOrder.body)) ∧
    fields.lookup "distinctOn" = some (.list (m.distinctOn.map PropertyReference.body)) ∧
    fields.lookup "startCursor" = m.startCursor.map (fun b => .text (Text.Base64.encode b)) ∧
    fields.lookup "limit" = m.limit.map .int ∧
    fields.lookup "offset" = some (.int m.offset) := by
  obtain ⟨kinds, projections, _, orders, distinctOn, startCursor, limit, offset⟩ := m
  cases filter <;> cases startCursor <;> cases limit <;>
    exact ⟨rfl, rfl, rfl, rfl, rfl, rfl, rfl, rfl⟩

/-- No two cursors have the same text, since `decode?` reads each back. -/
theorem Text.Base64.encode_inj {a b : List UInt8}
    (same : (Value.text (encode a)).alikeIn met (.text (encode b)) = true) : a = b := by
  have := decode?_encode a
  rw [Value.alikeIn_text.mp same, decode?_encode] at this
  exact (Option.some.inj this).symm

/-- Compiled queries whose bodies are alike have the same fields, up to the filter, which is only
compared by its body here. -/
theorem QueryMessage.eq_of_bodies {m m' : QueryMessage Value} {filter filter' : Option Value}
    (same : (m.bodyOf filter).alikeIn met (m'.bodyOf filter') = true) :
    Alike? met filter filter' ∧ m' = { m with filter := m'.filter } := by
  rw [m.bodyOf_eq, m'.bodyOf_eq] at same
  have nodup := m.nodup_bodyFields filter
  -- Each field is found under its own name in both bodies, and compared there.
  obtain ⟨kinds, projections, part, orders, distinctOn, cursor, limit, offset⟩ :=
    m.lookup_bodyFields filter
  obtain ⟨kinds', projections', part', orders', distinctOn', cursor', limit', offset'⟩ :=
    m'.lookup_bodyFields filter'
  have kindsSame :=
    eq_of_sequence KindExpression.eq_of_body (lookup_of_alike nodup same kinds kinds')
  have projectionsSame :=
    eq_of_sequence Projection.eq_of_body (lookup_of_alike nodup same projections projections')
  have ordersSame :=
    eq_of_sequence PropertyOrder.eq_of_body (lookup_of_alike nodup same orders orders')
  have distinctOnSame :=
    eq_of_sequence PropertyReference.eq_of_body (lookup_of_alike nodup same distinctOn distinctOn')
  have cursorSame :=
    eq_of_optional Text.Base64.encode_inj (lookup_of_alike nodup same cursor cursor')
  have limitSame := eq_of_optional Value.alikeIn_int.mp (lookup_of_alike nodup same limit limit')
  have offsetSame : some m.offset = some m'.offset :=
    eq_of_optional Value.alikeIn_int.mp (lookup_of_alike nodup same offset offset')
  refine ⟨lookup_of_alike nodup same part part', ?_⟩
  rw [kindsSame, projectionsSame, ordersSame, distinctOnSame, cursorSame, limitSame,
    Option.some.inj offsetSame]

end

/-! ## Messages of all classes -/

/-- A mapping from texts to JSON data with one text, or none, at each place. -/
structure IsShownMapping (texts : Nat → Option String) (value : List (String × Value)) : Prop where
  json : IsJsonMapping value
  shown : ∀ e ∈ value, e.2.Shows texts

section

variable {texts : Nat → Option String} {met met' : List (Nat × Nat)}

theorem PropertyFilter.alike_of_encoded {m m' : PropertyFilter Value}
    (h : IsShownMapping texts m.value) (h' : IsShownMapping texts m'.value)
    (abreast : Abreast texts met) (same : m.encoded.alikeIn met' m'.encoded = true) :
    alikePropertyFilter met m m' = true := by
  obtain ⟨property, op, value, mark⟩ := m
  obtain ⟨property', op', value', mark'⟩ := m'
  have propertySame := PropertyReference.eq_of_body (alikeIn_fields same (.head _) rfl)
  have opSame := PropertyOperator.spelling_inj
    (Value.alikeIn_text.mp (alikeIn_fields same (.tail _ (.head _)) rfl))
  obtain ⟨length, among⟩ := Value.alikeIn_ofTexts.mp
    (alikeIn_fields same (.tail _ (.tail _ (.head _))) rfl)
  have found : alikeMapping met value value' = true := by
    rw [alikeMapping_iff] at among ⊢
    intro e he
    obtain ⟨w, there, alike⟩ := among (e.1, e.2.encoded) (List.mem_map.mpr ⟨e, he, rfl⟩)
    obtain ⟨other, ho, entry⟩ := List.mem_map.mp (mem_of_lookup there)
    obtain ⟨key, rfl⟩ := Prod.mk.inj entry
    refine ⟨other.2, ?_, Value.alikeIn_of_encoded (h.json.values e he) (h'.json.values other ho)
      (h.shown e he) (h'.shown other ho) abreast alike⟩
    rw [lookup_eq_find?, find?_of_nodup (fun o _ => ?_) h'.json.nodup ho]
    · rfl
    · rw [beq_iff_eq, ← key]
      exact eq_comm
  simp only [encodedMapping, List.length_map] at length
  simp only at propertySame opSame
  simp [alikePropertyFilter, propertySame, opSame, length, found]

/-- Filters are alike if their encoded forms are and that makes each two of them alike. -/
theorem alikeFilters_of_encoded {filters others : List (Filter Value)}
    (each : ∀ f ∈ filters, ∀ g ∈ others,
      f.encoded.alikeIn met' g.encoded = true → alikeFilter met f g = true)
    (same : alikeItems met' (encodedFilters filters) (encodedFilters others) = true) :
    alikeFilters met filters others = true := by
  induction filters generalizing others with
  | nil => cases others <;> simp_all [encodedFilters, alikeFilters, alikeItems]
  | cons f rest ih =>
      cases others with
      | nil => simp [encodedFilters, alikeItems] at same
      | cons g others =>
          simp only [encodedFilters, alikeItems, Bool.and_eq_true] at same
          simp only [alikeFilters, Bool.and_eq_true]
          refine ⟨each f (by simp) g (by simp) same.1, ih ?_ same.2⟩
          exact fun f hf g hg => each f (by simp [hf]) g (by simp [hg])

/-- The operators and the parts of composite filters whose bodies are alike. -/
theorem CompositeFilter.eq_of_bodies {op op' : CompositeOperator} {items others : List Value}
    (same : (bodyOf op items).alikeIn met' (bodyOf op' others) = true) :
    op = op' ∧ alikeItems met' items others = true := by
  have opSame := Value.alikeIn_text.mp (alikeIn_fields same (.head _) rfl)
  exact ⟨CompositeOperator.spelling_inj opSame, alikeIn_fields same (.tail _ (.head _)) rfl⟩

/-- Filters are alike if their encoded forms are, by induction on the first. -/
theorem Filter.alike_of_encoded {f g : Filter Value} (h : f.Holds (IsShownMapping texts))
    (h' : g.Holds (IsShownMapping texts)) (abreast : Abreast texts met)
    (same : f.encoded.alikeIn met' g.encoded = true) : alikeFilter met f g = true := by
  induction h generalizing g with
  | property mapping =>
      cases h' with
      | property mapping' =>
          exact PropertyFilter.alike_of_encoded mapping mapping' abreast
            (alikeIn_fields same (.head _) rfl)
      | composite =>
          obtain ⟨_, found, _⟩ := alikeMapping_iff.mp (Value.alikeIn_ofTexts.mp same).2 _ (.head _)
          cases found
  | composite _ ih =>
      cases h' with
      | property =>
          obtain ⟨_, found, _⟩ := alikeMapping_iff.mp (Value.alikeIn_ofTexts.mp same).2 _ (.head _)
          cases found
      | composite parts' =>
          obtain ⟨opSame, items⟩ :=
            CompositeFilter.eq_of_bodies (alikeIn_fields same (.head _) rfl)
          have parts := alikeFilters_of_encoded
            (fun f hf g hg => ih f hf (parts' g hg)) items
          simp [alikeFilter, opSame, parts]

theorem QueryMessage.alike_of_encoded {m m' : QueryMessage Value}
    (h : ∀ f ∈ m.filter, f.Holds (IsShownMapping texts))
    (h' : ∀ f ∈ m'.filter, f.Holds (IsShownMapping texts)) (abreast : Abreast texts met)
    (same : m.encoded.alikeIn met' m'.encoded = true) : alikeQueryMessage met m m' = true := by
  obtain ⟨filters, rest⟩ := QueryMessage.eq_of_bodies same
  have filterSame : alikeFilter? met m.filter m'.filter = true := by
    cases mine : m.filter <;> cases theirs : m'.filter <;> rw [mine, theirs] at filters <;>
      cases filters
    · rfl
    · rename_i f g alike
      exact Filter.alike_of_encoded (h f mine) (h' g theirs) abreast alike
  rw [rest]
  cases m
  simpa [alikeQueryMessage] using filterSame

/-- Messages of one class are alike if their encoded forms are. -/
theorem Message.alike_of_encoded {a b : Message Value} (sameClass : a.cls = b.cls)
    (h : a.Holds (IsShownMapping texts)) (h' : b.Holds (IsShownMapping texts))
    (abreast : Abreast texts met) (same : a.encoded.alikeIn met' b.encoded = true) :
    alikeMessage met a b = true := by
  cases a <;> cases b <;> cases sameClass
  case bare.bare => rfl
  case kindExpression.kindExpression => exact beq_iff_eq.mpr (KindExpression.eq_of_body same)
  case propertyReference.propertyReference =>
    exact beq_iff_eq.mpr (PropertyReference.eq_of_body same)
  case projection.projection => exact beq_iff_eq.mpr (Projection.eq_of_body same)
  case propertyOrder.propertyOrder => exact beq_iff_eq.mpr (PropertyOrder.eq_of_body same)
  case propertyFilter.propertyFilter => exact PropertyFilter.alike_of_encoded h h' abreast same
  case compositeFilter.compositeFilter m m' =>
    obtain ⟨opSame, items⟩ := CompositeFilter.eq_of_bodies same
    have parts := alikeFilters_of_encoded
      (fun f hf g hg => Filter.alike_of_encoded (h f hf) (h' g hg) abreast) items
    simp [alikeMessage, opSame, parts]
  case filter.filter => exact Filter.alike_of_encoded h h' abreast same
  case query.query => exact QueryMessage.alike_of_encoded h h' abreast same
  case partitionId.partitionId => exact beq_iff_eq.mpr (PartitionId.eq_of_body same)
  case request.request m m' =>
    have partition := PartitionId.eq_of_body (alikeIn_fields same (.head _) rfl)
    have query := QueryMessage.alike_of_encoded h h' abreast
      (alikeIn_fields same (.tail _ (.head _)) rfl)
    simp [alikeMessage, partition, query]

end

/-- A message of data that has a body has its encoded form for one. -/
theorem Message.encoded_of_body {m : Message Value} (h : m.Holds IsDataMapping) {body : Value}
    (written : m.body = .ok body) : body = m.encoded := by
  rw [Message.body_eq h, Nesting.fit] at written
  split at written
  · exact (Except.ok.inj written).symm
  · cases written

theorem Message.exists_encoded_eq (m : Message Value) : ∃ fields, m.encoded = .ofTexts fields := by
  cases m with
  | filter f => cases f <;> exact ⟨_, rfl⟩
  | _ => exact ⟨_, rfl⟩

end EntityQuery
