import EntityQuery.Method
import EntityQuery.Proofs.Declared
import EntityQuery.Proofs.Records

/-!
# No message is malformed

The types of messages have no room for a filter with two parts or for an operator that is a number.
The data that messages are made of has: there, a filter is a mapping in which both parts may be set,
and any value can stand in place of any field. That no message is malformed is therefore stated of
the data: none that is malformed gets past the checks, on whatever way it comes to them.

* `Value.data?` is the data that a unit hands to the classes when it is compiled, at all depths and
  before anything of it is checked: the name, the operator and the encoded operand of a comparison,
  the operator and the parts of a combination. `QueryState.data?` is that of a builder.
* A `Path` is a way to come by a message: validating data, calling a class with fields, compiling or
  composing something, or asking a builder after a run of calls. `Path.data?` is its data.
* `Value.hasData_of_compile` is the induction on units. `Path.madeOf_of_answer` is the whole: the
  message at the end of a path is made of the data of the path (`Message.MadeOf`), so the data has
  the form that the class declares (`FieldType.Admits`), and the message is what it is read as.
-/

namespace EntityQuery

/-! ## Data before it is checked -/

namespace Loose

/-- The data of whatever has just a name. -/
def named (name : Value) : Value := .ofTexts [("name", name)]

/-- The data of a projection. -/
def projection (name : Value) : Value := .ofTexts [("property", named name)]

/-- The data of a sort key. -/
def order (name direction : Value) : Value :=
  .ofTexts [("property", named name), ("direction", direction)]

/-- The data of a filter that compares a property. -/
def comparison (name op value : Value) : Value :=
  .ofTexts [("property_filter",
    .ofTexts [("property", named name), ("op", op), ("value", value)])]

/-- The data of a filter that combines parts. -/
def combination (op : Value) (parts : List Value) : Value :=
  .ofTexts [("composite_filter", .ofTexts [("op", op), ("filters", .tuple parts)])]

/-- The data of the one filter for some parts. -/
def composed : List Value → Value
  | [] => .none
  | [part] => part
  | parts => combination (.member (.composite .and)) parts

/-- The data of a compiled query, for a builder whose units come to a filter. -/
def query (q : QueryState Value) (filter : Value) : Value :=
  .ofTexts [("kinds", .tuple (q.kinds.map named)),
    ("projections", .tuple (q.projections.map projection)), ("filter", filter),
    ("orders", .tuple (q.orders.map .message)), ("distinct_on", .tuple (q.groups.map .message)),
    ("start_cursor", q.startCursor), ("limit", q.limit), ("offset", q.offset)]

/-- The data of a request. -/
def request (projectId scope query : Value) : Value :=
  .ofTexts [("partition_id", .ofTexts [("project_id", projectId), ("namespace_id", scope)]),
    ("query", query)]

end Loose

mutual

/-- The data of what a value answers when it is compiled for a namespace, as far as the caller's own
code gives any. It follows `Value.compile` but makes no message and checks nothing, so it is there
for malformed arguments as well. A unit that answers something fixed has that as its data, whatever
it is. -/
def Value.data? : Value → Value → Option Value
  | .comparison _ _ property op operand, scope =>
      (operand.encode scope).toOption.map (Loose.comparison property op)
  | .combination _ op parts, scope => (partsData? parts scope).map (Loose.combination op)
  | .query _ state, scope => state.data? scope
  | .recorder _ name, scope =>
      some (Loose.comparison name (.member (.property .equal))
        (.ofTexts [("stringValue", shownScope scope)]))
  | .answering _ result, _ => some result
  | .object _ look, scope => (look ()).data? scope
  | _, _ => none
termination_by structural v => v

/-- The data of parts, from left to right. -/
def partsData? : List Value → Value → Option (List Value)
  | [], _ => some []
  | v :: rest, scope =>
      (v.data? scope).bind fun data => (partsData? rest scope).map (data :: ·)
termination_by structural parts => parts

/-- The data of what a builder is compiled to: the recorded names, the data of its units and its
settings, as they are. -/
def QueryState.data? : QueryState Value → Value → Option Value
  | ⟨config, kinds, projections, filters, orders, groups, startCursor, limit, offset⟩, scope =>
      (effectiveScope config scope).toOption.bind fun scope =>
        (partsData? filters scope).map fun parts =>
          Loose.query ⟨config, kinds, projections, filters, orders, groups, startCursor, limit,
            offset⟩ (Loose.composed parts)
termination_by structural state => state

end

/-- The data of what is compiled without a namespace. -/
def Value.dataAlone? (v : Value) : Option Value :=
  match v.content with
  | .order property direction => some (Loose.order property direction)
  | .group property => some (Loose.named property)
  | .query _ state => state.data? .none
  | _ => Option.none

/-- The data of what a value answers when it is asked to compile with loose arguments. -/
def Value.callData? (v : Value) (positional : List Value) (named : List (String × Value)) :
    Option Value :=
  (v.compileSignature?.bind fun s => (s.bind positional named).toOption).bind fun
    | [] => v.dataAlone?
    | scope :: _ => v.data? scope

/-- The data of what `composeFragments` composes. A single fragment is its own data. -/
def fragmentsData? (fragments : Value) : Option Value :=
  if fragments.truthy then
    if fragments.length.toOption = some 1 then (Key.itemAt fragments 0).toOption
    else fragments.items.toOption.map (Loose.combination (.member (.composite .and)))
  else some .none

/-- A way to come by a message: validating data, making a message by its class, or compiling, in all
the forms that there are. -/
inductive Path where
  /-- Validating data for a class. -/
  | validate (cls : MessageClass) (v : Value)
  /-- Calling a class with fields by name. -/
  | make (cls : MessageClass) (fields : List (String × Value))
  /-- Calling the compilation of a value with loose arguments. -/
  | compile (unit : Value) (positional : List Value) (named : List (String × Value))
  | compose (fragments : Value)
  | compileFilters (units : List Value) (scope : Value)
  /-- Compiling a builder after a run of calls. -/
  | query (start : Query) (calls : List Query.Call) (scope : Value)
  /-- Asking a builder for a request after a run of calls. -/
  | request (start : Query) (calls : List Query.Call) (scope projectId : Value)

namespace Path

/-- What is at the end of a path, if it does not fail. Each is a function of the model. -/
def answer : Path → Except Failure Value
  | validate cls v => .message <$> Message.validate cls v
  | make cls fields => .message <$> Message.make cls fields
  | compile unit positional named => (unit.callCompile positional named).result
  | compose fragments => composeFragments fragments
  | compileFilters units scope =>
      (fun f? => f?.elim .none Filter.asAnswer) <$> (EntityQuery.compileFilters units scope).result
  | query start calls scope => (.message ∘ .query) <$> ((start.run calls).compile scope).result
  | request start calls scope projectId =>
      (.message ∘ .request) <$> ((start.run calls).request scope projectId).result

/-- The data that is handed to the classes on a path. -/
def data? : Path → Option Value
  | validate _ v => some v
  | make _ fields => some (.ofTexts fields)
  | compile unit positional named => unit.callData? positional named
  | compose fragments => fragmentsData? fragments
  | compileFilters units scope => (partsData? units scope).map Loose.composed
  | query start calls scope => (start.run calls).data? scope
  | request start calls scope projectId =>
      (effectiveScope (start.run calls).config scope).toOption.bind fun scope =>
        ((start.run calls).data? scope).map (Loose.request projectId scope)

/-- The class that is asked for on a path, if there is one. -/
def cls? : Path → Option MessageClass
  | validate cls _ | make cls _ => some cls
  | compile .. | compose _ => none
  | compileFilters .. => some .filter
  | query .. => some .query
  | request .. => some .request

end Path

/-! ## What the data is read as -/

/-- A value has data: it is the data, or a message that the data is `Message.Reads` of. Answers of
units need not be messages, which is what the first case is for. -/
def Value.HasData (answer data : Value) : Prop :=
  answer = data ∨ ∃ m, answer = .message m ∧ m.Reads data m.cls

/-- A filter that is answered is read from the data of the answer. -/
theorem Filter.reads_of_hasData {answer data : Value} {f : Filter Value} (has : answer.HasData data)
    (read : Reads answer f) : Reads data f := by
  obtain rfl | ⟨m, rfl, reads⟩ := has
  · exact read
  · cases read with
    | taken seen =>
        cases seen
        exact reads
    | property seen => cases seen
    | composite seen => cases seen

theorem Filter.Reads.isNone {v : Value} {f : Filter Value} (read : Reads v f) :
    v.isNone = false := by
  rw [← Bool.not_eq_true, Value.isNone_iff]
  cases read with
  | taken seen | property seen | composite seen =>
      rw [seen]
      exact nofun

theorem PropertyReference.reads_named {name : Value} {m : PropertyReference}
    (spells : name.spelling? = some m.name) : Reads (Loose.named name) m :=
  .given rfl spells

theorem PropertyOrder.reads_order {name direction : Value} {m : PropertyOrder}
    (compiled : Order.compile name direction = .ok m) : Reads (Loose.order name direction) m := by
  obtain ⟨spells, names⟩ := Order.compile_eq_ok_iff.mp compiled
  exact .given rfl ⟨PropertyReference.reads_named spells, names⟩

/-- What is made of a named property, an operator and a value is read from them. -/
theorem Filter.reads_comparison {name op value : Value} {reference : PropertyReference}
    {m : PropertyFilter Value} (named : PropertyReference.make name = .ok reference)
    (made : PropertyFilter.make reference op value = .ok m) :
    Reads (Loose.comparison name op value) (.property m) := by
  obtain ⟨rfl, isOperator, isMapping, mark⟩ := PropertyFilter.make_eq_ok_iff.mp made
  have spells := PropertyReference.make_eq_ok_iff.mp named
  exact .property rfl rfl rfl (.given rfl ⟨PropertyReference.reads_named spells, isOperator,
    checkMapping_eq_ok_iff.mp isMapping, mark⟩) nofun

theorem Filter.forall₂_reads_of_hasData {answers parts : List Value} {filters : List (Filter Value)}
    (each : List.Forall₂ Value.HasData answers parts) (read : List.Forall₂ Reads answers filters) :
    List.Forall₂ Reads parts filters := by
  induction each generalizing filters with
  | nil =>
      cases read
      exact .nil
  | cons first _ ih =>
      cases read with
      | cons reads others => exact .cons (reads_of_hasData first reads) (ih others)

/-- Parts that are read as filters are read together as a composite filter. `CompositeFilter.make`
was given answers, and this puts their data in place of them. -/
theorem Filter.reads_composite {op : Value} {operator : CompositeOperator} {parts : List Value}
    {filters : List (Filter Value)} (isOperator : op.compositeOperator? = some operator)
    (read : List.Forall₂ Reads parts filters) :
    Reads (Loose.combination op parts) (.composite operator filters none) := by
  obtain ⟨length, each⟩ := List.forall₂_iff_zip.mp read
  have composite : CompositeFilter.Reads (.ofTexts [("op", op), ("filters", .tuple parts)])
      ⟨operator, filters, none⟩ := by
    refine .fields rfl ?_ rfl length fun _ pair => each pair
    exact isOperator
  refine .composite rfl ?_ rfl rfl composite
  exact nofun

/-- What `CompositeFilter.make` makes of an operator and of answers is read from the data of the
answers. -/
theorem Filter.reads_combination {op : Value} {answers parts : List Value}
    {c : CompositeFilter Value} (each : List.Forall₂ Value.HasData answers parts)
    (made : CompositeFilter.make op answers = .ok c) :
    Reads (Loose.combination op parts) (.composite c.op c.filters c.mark) := by
  have reads : CompositeFilter.Reads (.ofTexts [("op", op), ("filters", .tuple answers)]) c :=
    CompositeFilter.reads_of_check (Checked.orInvalid_eq_ok_iff.mp made)
  cases reads with
  | taken seen => cases seen
  | fields seen isOperator sequence length reads =>
      cases seen
      cases sequence
      exact reads_composite isOperator <| forall₂_reads_of_hasData each <|
        List.forall₂_iff_zip.mpr ⟨length, fun {_ _} pair => reads _ pair⟩

/-- `Filter.compose` on the side of messages is `Loose.composed` on the side of data. -/
theorem Filter.optionally_reads_composed {parts : List Value} {filters : List (Filter Value)}
    (read : List.Forall₂ Reads parts filters) :
    (Loose.composed parts).Optionally Reads (compose filters) := by
  cases read with
  | nil => rfl
  | cons first others =>
      cases others with
      | nil => exact ⟨first.isNone, first⟩
      | cons second rest => exact ⟨rfl, reads_composite rfl (.cons first (.cons second rest))⟩

theorem Filter.hasData_composed {parts : List Value} {filters : List (Filter Value)}
    (read : List.Forall₂ Reads parts filters) :
    ((compose filters).elim Value.none asAnswer).HasData (Loose.composed parts) := by
  have reads := optionally_reads_composed read
  cases composed : compose filters with
  | none =>
      cases read with
      | nil => exact .inl rfl
      | cons _ others => cases others <;> cases composed
  | some f =>
      rw [composed] at reads
      exact .inr ⟨_, rfl, reads.2⟩

/-- Items that are read one by one as what the others are, side by side. -/
theorem forall₂_of_map_eq {α β γ : Type} {f : α → γ} {g : β → γ} {l : List α} {l' : List β}
    (same : l.map f = l'.map g) : List.Forall₂ (fun a b => f a = g b) l l' := by
  have all : List.Forall₂ (· = ·) (l.map f) (l'.map g) := by rwa [List.forall₂_eq_eq_eq]
  exact List.forall₂_map_left_iff.mp (List.forall₂_map_right_iff.mp all)

theorem Value.optionally_of_orNothing {α : Type} {read? : Value → Option α} {v : Value}
    {x : Option α} (read : v.orNothing read? = some x) :
    v.Optionally (fun v a => read? v = some a) x := by
  unfold orNothing at read
  split at read
  · cases read
    assumption
  · obtain ⟨a, isRead, rfl⟩ := Option.map_eq_some_iff.mp read
    exact ⟨Bool.not_eq_true _ ▸ ‹_›, isRead⟩

/-- A message that a recorded message is, is read from it. -/
theorem Message.lists_of_map_eq {α : Type} {read? : Message Value → Option α}
    {reads : Value → α → Prop} {ms : List (Message Value)} {l : List α}
    (same : ms.map read? = l.map some)
    (each : ∀ {m a}, read? m = some a → reads (.message m) a) :
    (Value.tuple (ms.map .message)).Lists reads l :=
  ⟨_, rfl, List.forall₂_map_left_iff.mpr ((forall₂_of_map_eq same).imp fun _ _ => each)⟩

/-- What a builder compiles to is read from what it has recorded and from the data of its filter.
`CompilesAs` gives the fields one by one. -/
theorem QueryMessage.reads_query {q : Query} {n filter : Value} {m : QueryMessage Value}
    (compiles : q.CompilesAs n m) (read : filter.Optionally Filter.Reads m.filter) :
    Reads (Loose.query q filter) m := by
  have kinds : (Value.tuple (q.kinds.map Loose.named)).Lists KindExpression.Reads m.kinds :=
    ⟨_, rfl, List.forall₂_map_left_iff.mpr <|
      (forall₂_of_map_eq compiles.kinds).imp fun _ _ spells => .given rfl spells⟩
  have projections : (Value.tuple (q.projections.map Loose.projection)).Lists Projection.Reads
      m.projections :=
    ⟨_, rfl, List.forall₂_map_left_iff.mpr <|
      (forall₂_of_map_eq compiles.projections).imp fun _ _ spells =>
        .given rfl (PropertyReference.reads_named spells)⟩
  have orders : (Value.tuple (q.orders.map .message)).Lists PropertyOrder.Reads m.orders := by
    refine Message.lists_of_map_eq compiles.orders fun {order _} isOrder => ?_
    cases order <;> cases isOrder
    exact .taken rfl
  have groups : (Value.tuple (q.groups.map .message)).Lists PropertyReference.Reads
      m.distinctOn := by
    refine Message.lists_of_map_eq compiles.groups fun {group _} isReference => ?_
    cases group <;> cases isReference
    exact .taken rfl
  exact .given rfl ⟨kinds, projections, read, orders, groups,
    Value.optionally_of_orNothing compiles.startCursor,
    Value.optionally_of_orNothing compiles.limit, compiles.offset⟩

theorem exists_answers_of_compilesTo {scope : Value} {units : List Value} {fs : List (Filter Value)}
    (compile : List.Forall₂ (CompilesTo scope) units fs) :
    ∃ answers, List.Forall₂ (fun u answer => (u.compile scope).result = .ok answer) units answers ∧
      List.Forall₂ Filter.Reads answers fs := by
  induction compile with
  | nil => exact ⟨[], .nil, .nil⟩
  | cons first _ ih =>
      obtain ⟨-, answer, answered, isFilter⟩ := first
      obtain ⟨answers, others, reads⟩ := ih
      exact ⟨answer :: answers, .cons answered others, .cons (.taken isFilter) reads⟩

/-! ## Compilation -/

/-- What a comparison compiles to is read from its data. -/
theorem Filter.hasData_of_compileComparison {property op operand scope : Value} {f : Filter Value}
    (compiled : compileComparison property op operand scope = .ok f) :
    ∃ data, (operand.encode scope).toOption.map (Loose.comparison property op) = some data ∧
      Reads data f := by
  obtain ⟨reference, named, compiled⟩ := bind_eq_ok_iff.mp compiled
  obtain ⟨value, encoded, compiled⟩ := bind_eq_ok_iff.mp compiled
  obtain ⟨m, made, same⟩ := bind_eq_ok_iff.mp compiled
  cases same
  exact ⟨_, by rw [encoded]; rfl, reads_comparison named made⟩

theorem Filter.reads_of_compileRecorder {name scope : Value} {f : Filter Value}
    (compiled : compileRecorder name scope = .ok f) :
    Reads (Loose.comparison name (.member (.property .equal))
      (.ofTexts [("stringValue", shownScope scope)])) f := by
  obtain ⟨reference, named, compiled⟩ := bind_eq_ok_iff.mp compiled
  obtain ⟨m, made, same⟩ := bind_eq_ok_iff.mp compiled
  cases same
  exact reads_comparison named made

mutual

/-- What a value answers when it is compiled has the data of the value. The induction is mutual with
the two below, as units hold parts and builders hold units. -/
theorem Value.hasData_of_compile : (v : Value) → {scope answer : Value} →
    (v.compile scope).result = .ok answer → ∃ data, v.data? scope = some data ∧ answer.HasData data
  | .comparison .., scope, _, answered => by
      obtain ⟨f, compiled, rfl⟩ := map_eq_ok_iff.mp answered
      obtain ⟨data, given, reads⟩ := Filter.hasData_of_compileComparison compiled
      exact ⟨data, given, .inr ⟨_, rfl, reads⟩⟩
  | .combination _ op parts, scope, _, answered => by
      rw [Value.compile_combination_result, bind_eq_ok_iff] at answered
      obtain ⟨answers, compiledEach, answered⟩ := answered
      obtain ⟨f, compiled, rfl⟩ := map_eq_ok_iff.mp answered
      obtain ⟨c, made, same⟩ := bind_eq_ok_iff.mp compiled
      cases same
      -- The answers were put into the filter, but each has its own data, and that is what counts.
      obtain ⟨data, given, each⟩ := hasData_of_compileEach parts
        (compileParts_eq_ok_iff.mp compiledEach)
      refine ⟨Loose.combination op data, ?_, .inr ⟨_, rfl, Filter.reads_combination each made⟩⟩
      rw [Value.data?, given]
      rfl
  | .query _ state, scope, _, answered => by
      obtain ⟨m, compiled, rfl⟩ := Traced.map_result_eq_ok.mp answered
      obtain ⟨data, given, reads⟩ := state.hasData_of_compile compiled
      exact ⟨data, given, .inr ⟨_, rfl, reads⟩⟩
  | .recorder .., scope, _, answered => by
      rw [Value.compile, Traced.bind_result_of_ok rfl] at answered
      obtain ⟨f, compiled, rfl⟩ := map_eq_ok_iff.mp answered
      exact ⟨_, rfl, .inr ⟨_, rfl, Filter.reads_of_compileRecorder compiled⟩⟩
  | .answering _ result, _, _, answered => by
      -- A fixed answer is its own data, whether it is a message or not.
      cases answered
      exact ⟨result, rfl, .inl rfl⟩
  | .object _ look, _, _, answered => Value.hasData_of_compile (look ()) answered
  | .order .., _, _, answered | .group _, _, _, answered | .unseen, _, _, answered
  | .none, _, _, answered | .bool _, _, _, answered | .int _, _, _, answered
  | .float _, _, _, answered | .text _, _, _, answered | .bytes _, _, _, answered
  | .list _, _, _, answered | .tuple _, _, _, answered | .mapping _, _, _, answered
  | .member _, _, _, answered | .key .., _, _, answered | .config .., _, _, answered
  | .message _, _, _, answered | .scoped .., _, _, answered | .giving .., _, _, answered => by
      cases answered
termination_by structural v => v

/-- So do the answers of several values, one by one. -/
theorem hasData_of_compileEach : (vs : List Value) → {scope : Value} → {answers : List Value} →
    List.Forall₂ (fun v answer => (v.compile scope).result = .ok answer) vs answers →
      ∃ data, partsData? vs scope = some data ∧ List.Forall₂ Value.HasData answers data
  | [], _, _, .nil => ⟨[], rfl, .nil⟩
  | v :: rest, scope, _, .cons first others => by
      obtain ⟨data, given, has⟩ := v.hasData_of_compile first
      obtain ⟨allData, allGiven, allHave⟩ := hasData_of_compileEach rest others
      refine ⟨data :: allData, ?_, .cons has allHave⟩
      rw [partsData?, given, allGiven]
      rfl
termination_by structural vs => vs

/-- What a builder is compiled to is read from the data of the builder. -/
theorem QueryState.hasData_of_compile : (q : QueryState Value) → {scope : Value} →
    {m : QueryMessage Value} → (compileState q scope).result = .ok m →
      ∃ data, q.data? scope = some data ∧ QueryMessage.Reads data m
  | ⟨config, kinds, projections, filters, orders, groups, startCursor, limit, offset⟩, scope, m,
      compiled => by
      have stages := compiled
      rw [compileState_result] at stages
      obtain ⟨n, effective, -⟩ := bind_eq_ok_iff.mp stages
      have compiles := Query.compilesAs_of_compile effective compiled
      obtain ⟨fs, units, filter⟩ := compiles.filter
      obtain ⟨answers, answered, reads⟩ := exists_answers_of_compilesTo units
      obtain ⟨parts, given, has⟩ := hasData_of_compileEach filters answered
      have read := Filter.optionally_reads_composed (Filter.forall₂_reads_of_hasData has reads)
      rw [← filter] at read
      refine ⟨_, ?_, QueryMessage.reads_query compiles read⟩
      rw [QueryState.data?, effective, Except.toOption, Option.bind_some, given]
      rfl
termination_by structural q => q

end

theorem Value.hasData_of_compileAlone {v : Value} {m : Message Value}
    (answered : v.compileAlone.result = .ok m) :
    ∃ data, v.dataAlone? = some data ∧ m.Reads data m.cls := by
  unfold compileAlone at answered
  unfold dataAlone?
  generalize v.content = seen at answered
  cases seen with
  | order property direction =>
      obtain ⟨order, compiled, rfl⟩ := map_eq_ok_iff.mp answered
      exact ⟨_, rfl, PropertyOrder.reads_order compiled⟩
  | group property =>
      obtain ⟨reference, compiled, rfl⟩ := map_eq_ok_iff.mp answered
      exact ⟨_, rfl, PropertyReference.reads_named (PropertyReference.make_eq_ok_iff.mp compiled)⟩
  | query _ state =>
      obtain ⟨m, compiled, rfl⟩ := Traced.map_result_eq_ok.mp answered
      exact state.hasData_of_compile compiled
  | _ => cases answered

theorem hasData_of_composeFragments {fragments answer : Value}
    (composed : composeFragments fragments = .ok answer) :
    ∃ data, fragmentsData? fragments = some data ∧ answer.HasData data := by
  unfold composeFragments at composed
  unfold fragmentsData?
  split at composed
  · rename_i isTrue
    rw [if_pos isTrue]
    obtain ⟨length, counted, composed⟩ := bind_eq_ok_iff.mp composed
    rw [counted]
    simp only [Except.toOption, Option.some.injEq]
    split at composed
    · rename_i isOne
      exact ⟨answer, by rw [if_pos isOne, composed], .inl rfl⟩
    · rename_i notOne
      rw [if_neg notOne]
      obtain ⟨parts, items, composed⟩ := bind_eq_ok_iff.mp composed
      obtain ⟨c, made, same⟩ := bind_eq_ok_iff.mp composed
      cases same
      have same : List.Forall₂ Value.HasData parts parts :=
        List.forall₂_same.mpr fun _ _ => .inl rfl
      exact ⟨_, by rw [items]; rfl, .inr ⟨_, rfl, Filter.reads_combination same made⟩⟩
  · rename_i isFalse
    cases composed
    exact ⟨.none, if_neg isFalse, .inl rfl⟩

/-! ## Paths -/

/-- What is read as a message of a class is one, unless it is the class that all messages belong
to. -/
theorem Message.Reads.ofClass {v : Value} {cls : MessageClass} {m : Message Value}
    (read : m.Reads v cls) : cls = .bare ∨ m.cls = cls := by
  cases cls with
  | bare => exact .inl rfl
  | _ => cases m <;> first | exact .inr rfl | exact read.elim

/-- It is read as one of its own class in any case. -/
theorem Message.Reads.ofOwnClass {v : Value} {cls : MessageClass} {m : Message Value}
    (read : m.Reads v cls) : m.Reads v m.cls := by
  obtain rfl | same := read.ofClass
  · obtain seen | ⟨seen, rfl⟩ := read
    · cases m with
      | bare => exact .inl seen
      | _ => exact .taken seen
    · exact .inr ⟨seen, rfl⟩
  · rwa [same]

/-- What a value answers to loose arguments has the data that the arguments ask for. -/
theorem Value.hasData_of_callCompile {v answer : Value} {positional : List Value}
    {named : List (String × Value)}
    (answered : (v.callCompile positional named).result = .ok answer) :
    ∃ data, v.callData? positional named = some data ∧ answer.HasData data := by
  unfold callCompile at answered
  unfold callData?
  split at answered
  · cases answered
  · rename_i signature isSignature
    obtain ⟨arguments, bound, answered⟩ := Traced.bind_result_eq_ok.mp answered
    have bound : signature.bind positional named = .ok arguments := bound
    simp only [isSignature, bound, Except.toOption, Option.bind_some]
    split at answered
    · obtain ⟨m, compiled, rfl⟩ := Traced.map_result_eq_ok.mp answered
      obtain ⟨data, given, reads⟩ := hasData_of_compileAlone compiled
      exact ⟨data, given, .inr ⟨m, rfl, reads⟩⟩
    · exact v.hasData_of_compile answered

/-- What is at the end of a path has the data of the path. -/
theorem Path.hasData_of_answer {path : Path} {answer : Value} (gives : path.answer = .ok answer) :
    ∃ data, path.data? = some data ∧ answer.HasData data := by
  cases path with
  | validate cls v =>
      obtain ⟨m, validated, rfl⟩ := map_eq_ok_iff.mp gives
      have reads := Message.reads_of_check (Checked.orInvalid_eq_ok_iff.mp validated)
      exact ⟨v, rfl, .inr ⟨m, rfl, reads.ofOwnClass⟩⟩
  | make cls fields =>
      obtain ⟨m, validated, rfl⟩ := map_eq_ok_iff.mp gives
      have reads := Message.reads_of_check (Checked.orInvalid_eq_ok_iff.mp validated)
      exact ⟨_, rfl, .inr ⟨m, rfl, reads.ofOwnClass⟩⟩
  | compile unit positional named => exact Value.hasData_of_callCompile gives
  | compose fragments => exact hasData_of_composeFragments gives
  | compileFilters units scope =>
      obtain ⟨f?, composed, rfl⟩ := map_eq_ok_iff.mp gives
      obtain ⟨fs, compiled, rfl⟩ := Traced.map_result_eq_ok.mp composed
      obtain ⟨answers, answered, reads⟩ :=
        exists_answers_of_compilesTo (compileUnits_eq_ok_iff.mp compiled)
      obtain ⟨parts, given, has⟩ := hasData_of_compileEach units answered
      refine ⟨Loose.composed parts, ?_,
        Filter.hasData_composed (Filter.forall₂_reads_of_hasData has reads)⟩
      rw [data?, given]
      rfl
  | query start calls scope =>
      obtain ⟨m, compiled, rfl⟩ := map_eq_ok_iff.mp gives
      obtain ⟨data, given, reads⟩ := (start.run calls).hasData_of_compile compiled
      exact ⟨data, given, .inr ⟨_, rfl, reads⟩⟩
  | request start calls scope projectId =>
      obtain ⟨m, asked, rfl⟩ := map_eq_ok_iff.mp gives
      -- The partition and the compiled query are made one after the other, for the same namespace.
      obtain ⟨n, effective, asked⟩ := Traced.bind_result_eq_ok.mp asked
      obtain ⟨partition, made, asked⟩ := Traced.bind_result_eq_ok.mp asked
      obtain ⟨query, compiled, same⟩ := Traced.bind_result_eq_ok.mp asked
      cases same
      obtain ⟨data, given, reads⟩ := (start.run calls).hasData_of_compile compiled
      have effective : effectiveScope (start.run calls).config scope = .ok n := effective
      have partitionReads : PartitionId.Reads (.ofTexts [("project_id", projectId),
          ("namespace_id", n)]) partition :=
        PartitionId.check_eq_ok_iff.mp (Checked.orInvalid_eq_ok_iff.mp made)
      refine ⟨Loose.request projectId n data, ?_, .inr ⟨_, rfl, .given rfl ⟨partitionReads, reads⟩⟩⟩
      simp only [data?, effective, Except.toOption, Option.bind_some, given]
      rfl

/-- The message at the end of a path is of the class that is asked for. -/
theorem Path.cls_of_answer {path : Path} {answer : Value} {m : Message Value}
    (gives : path.answer = .ok answer) (seen : answer.content = .message m) :
    ∀ cls ∈ path.cls?, cls = .bare ∨ m.cls = cls := by
  intro cls asked
  cases path with
  | compile | compose => cases asked
  | validate | make =>
      cases asked
      obtain ⟨m, validated, rfl⟩ := map_eq_ok_iff.mp gives
      cases seen
      exact (Message.reads_of_check (Checked.orInvalid_eq_ok_iff.mp validated)).ofClass
  | compileFilters =>
      cases asked
      obtain ⟨_ | f, composed, rfl⟩ := map_eq_ok_iff.mp gives
      · cases seen
      · cases seen
        exact .inr rfl
  | query | request =>
      cases asked
      obtain ⟨m, compiled, rfl⟩ := map_eq_ok_iff.mp gives
      cases seen
      exact .inr rfl

/-- A message is made of data: the data has the form that the class of the message declares, at all
depths (`Admits`), and is read as the message (`Reads`). By `attributes`, the message itself passes
as data of that form, looked into field by field. -/
structure Message.MadeOf (data : Value) (m : Message Value) : Prop where
  admits : (FieldType.message m.cls).Admits data
  reads : m.Reads data m.cls
  attributes : (FieldType.message m.cls).Admits (.message m)

/-- No message comes of malformed data. The message at the end of a `Path` is of the class that is
asked for, and `Path.data?`, what was handed to the classes on the way, has the form that they
declare at every depth. A message that is given as part of the data, such as an answer of the
caller's own unit, has come about on a path of its own. -/
theorem Path.madeOf_of_answer {path : Path} {answer : Value} {m : Message Value}
    (gives : path.answer = .ok answer) (seen : answer.content = .message m) :
    (∀ cls ∈ path.cls?, cls = .bare ∨ m.cls = cls) ∧
      ∃ data, path.data? = some data ∧ m.MadeOf data := by
  obtain ⟨data, given, has⟩ := hasData_of_answer gives
  have reads : m.Reads data m.cls := by
    obtain rfl | ⟨m', rfl, reads⟩ := has
    · have ofAny : m.Reads answer .bare := .inl seen
      exact ofAny.ofOwnClass
    · cases seen
      exact reads
  exact ⟨cls_of_answer gives seen, data, given, Message.admits_of_reads reads, reads, m.admits⟩

/-- A filter that was made of data, as a unit may answer it. -/
def Filter.answered : Filter Value := .property ⟨⟨"a"⟩, .equal, [("x", .int 1)], none⟩

/-- Calls on a builder, with a unit that answers a filter and an operand that gives a mapping. -/
def Query.Call.answered : List Query.Call :=
  [.filterBy (.combination 0 (.member (.composite .and))
    [.answering 1 (.message (.filter .answered)),
      .comparison 2 false (.text "b") (.text "NOT_EQUAL")
        (.giving 3 (.ofTexts [("stringValue", .text "x")]))]),
    .orderBy (.order (.text "a") (.text "DESCENDING")), .limit (.int 3)]

/-- The request that the calls lead to. -/
def RequestMessage.answered : RequestMessage Value where
  partitionId := ⟨some "p", none⟩
  query :=
    { kinds := []
      projections := []
      filter := some (.composite .and
        [.answered, .property ⟨⟨"b"⟩, .notEqual, [("stringValue", .text "x")], none⟩] none)
      orders := [⟨⟨"a"⟩, .descending⟩]
      distinctOn := []
      startCursor := none
      limit := some 3
      offset := 0 }

/-- Data for a filter that has both parts, each of which would do. -/
def Loose.twofold : Value :=
  .ofTexts [("property_filter", .ofTexts
      [("property", named (.text "a")), ("op", .text "EQUAL"), ("value", .mapping [])]),
    ("composite_filter", .mapping [])]

/-- A request comes of its data, and no filter comes of data with both parts. -/
theorem Path.madeOf_of_answer_request :
    let path : Path := .request (Query.new .none) Query.Call.answered .none (.text "p")
    (path.answer = .ok (.message (.request .answered)) ∧
      (∀ cls ∈ path.cls?, cls = .bare ∨ (Message.request .answered).cls = cls) ∧
        ∃ data, path.data? = some data ∧ Message.MadeOf data (.request .answered)) ∧
    ∀ m, (Path.validate .filter Loose.twofold).answer ≠ .ok (.message m) := by
  intro path
  have gives : path.answer = .ok (.message (.request .answered)) := rfl
  refine ⟨⟨gives, madeOf_of_answer gives rfl⟩, fun m gives => ?_⟩
  obtain ⟨ofClass, data, given, madeOf⟩ := madeOf_of_answer gives rfl
  obtain isAny | isFilter := ofClass .filter rfl
  · cases isAny
  · have admits := madeOf.admits
    rw [isFilter] at admits
    cases given
    cases admits with
    | taken seen => cases seen
    | given seen _ _ exactlyOne =>
        cases seen
        exact exactlyOne rfl rfl

end EntityQuery
