import EntityQuery.Proofs.Mirror
import EntityQuery.Proofs.Scope

/-!
# The tenant of a request

A request names its namespace in the partition, and so does every key in its filter that is not
pinned to a namespace of its own. The two are found in different ways: the first is asked of the
configuration by the request, and the second again by the compilation and then handed down to each
key. They have to be the same one.

* `tenantMapping` is what a key is sent as, and `PropertyFilter.BelongsTo` says of a leaf that the
  key in it is one of a tenant, or pinned.
* `PropertyFilter.Compares.belongsTo` is about one leaf and `Query.request_tenant` about a request.
-/

namespace EntityQuery

/-! ## Keys -/

/-- The mapping that a key is sent as: its path and, in a namespace, its partition. In contrast to
`keyMapping` the namespace is an `Option`, so that an empty one cannot be taken for none. -/
def tenantMapping (path : Value) : Option Value → List (String × Value)
  | none => [("keyValue", .ofTexts [("path", path)])]
  | some n => [("keyValue", .ofTexts
      [("path", path), ("partitionId", .ofTexts [("namespaceId", n)])])]

/-- The leaf of an operand for a tenant: an unpinned key has the tenant for its namespace, and no
partition if there is no tenant, and a pinned one has its own. Mappings are left as they are. -/
structure PropertyFilter.BelongsTo (tenant : Option String) (operand : Value)
    (m : PropertyFilter Value) : Prop where
  unpinned : ∀ path own, operand.content = .key path own → own.isNone = true →
    ∃ shown n, m.value = tenantMapping shown n ∧ n.map Value.asText? = tenant.map some
  pinned : ∀ path own, operand.content = .key path own → own.isNone = false →
    ∃ shown, m.value = tenantMapping shown (some own)

theorem keyMapping_of_isNone {n : Value} (isNone : n.isNone = true) (path : Value) :
    keyMapping path n = tenantMapping path none := by
  rw [keyMapping, Key.encodePartition, if_pos isNone, tenantMapping]

theorem keyMapping_of_isNone_eq_false {n : Value} (isSome : n.isNone = false) (path : Value) :
    keyMapping path n = tenantMapping path (some n) := by
  rw [keyMapping, Key.encodePartition, isSome, tenantMapping]
  rfl

/-- A key is resolved to `keyMapping` of its path and `Key.effective`, which is where the namespace
of the compilation comes in. -/
theorem Value.resolved?_key {operand path own n : Value} {fields : List (String × Value)}
    (seen : operand.content = .key path own) (resolved : operand.resolved? n = some fields) :
    ∃ shown, fields = keyMapping shown (Key.effective ⟨path, own⟩ n) := by
  obtain ⟨v, encoded, isMapping⟩ := Value.resolved?_eq_some_iff.mp resolved
  rw [encode, seen] at encoded
  obtain ⟨items, -, encoded⟩ := bind_eq_ok_iff.mp encoded
  obtain ⟨elements, -, encoded⟩ := bind_eq_ok_iff.mp encoded
  cases encoded
  have read : checkMapping (.ofTexts (keyMapping (.list elements) (Key.effective ⟨path, own⟩ n))) =
      .ok (keyMapping (.list elements) (Key.effective ⟨path, own⟩ n)) := rfl
  exact ⟨.list elements, Except.ok.inj (isMapping.symm.trans read)⟩

theorem Value.IsNamespace.asText?_eq_none_iff {n : Value} (h : n.IsNamespace) :
    n.asText? = Option.none ↔ n.isNone = true := by
  constructor
  · intro noText
    rcases h with isNone | isText
    · exact isNone
    · rw [noText] at isText
      cases isText
  · exact asText?_of_isNone

/-- What `Compares` a comparison `BelongsTo` the namespace that it was compiled for. -/
theorem PropertyFilter.Compares.belongsTo {n property op operand : Value}
    {m : PropertyFilter Value} (compares : m.Compares n property op operand)
    (isNamespace : n.IsNamespace) : m.BelongsTo n.asText? operand := by
  constructor
  · intro path own seen unpinned
    obtain ⟨shown, value⟩ := Value.resolved?_key seen compares.value
    rw [Key.effective, if_pos unpinned] at value
    -- The key has the namespace of the compilation, which shows in a partition if it is one.
    by_cases isNone : n.isNone = true
    · refine ⟨shown, none, ?_, ?_⟩
      · rw [value, keyMapping_of_isNone isNone]
      · rw [Value.asText?_of_isNone isNone]
        rfl
    · rw [Bool.not_eq_true] at isNone
      refine ⟨shown, some n, ?_, ?_⟩
      · rw [value, keyMapping_of_isNone_eq_false isNone]
      · cases text : n.asText? with
        | none =>
            rw [isNamespace.asText?_eq_none_iff, isNone] at text
            cases text
        | some s => simp [text]
  · intro path own seen pinned
    obtain ⟨shown, value⟩ := Value.resolved?_key seen compares.value
    rw [Key.effective, if_neg (by simp [pinned])] at value
    exact ⟨shown, by rw [value, keyMapping_of_isNone_eq_false pinned]⟩

/-! ## Requests -/

/-- The property filters in the filter of a compiled query, from left to right. -/
def QueryMessage.leaves (m : QueryMessage Value) : List (PropertyFilter Value) :=
  m.filter.elim [] Filter.leaves

/-- `Filter.compose` adds a node on top and nothing else, so the leaves stay. -/
theorem Filter.leaves_compose (fs : List (Filter Value)) :
    (Filter.compose fs).elim [] Filter.leaves = leavesOfFilters fs := by
  match fs with
  | [] => rfl
  | [f] => simp [leavesOfFilters]
  | _ :: _ :: _ => rfl

/-- `PartitionId.make` reads two values, each a text or nothing. -/
theorem PartitionId.make_eq_ok_iff {projectId n : Value} {m : PartitionId} :
    make projectId n = .ok m ↔
      projectId.orNothing Value.spelling? = some m.projectId ∧
        n.orNothing Value.spelling? = some m.namespaceId := by
  have fields : make projectId n = Checked.orInvalid .partitionId
      (((Checked.of PartitionId.mk).and
        (Checked.under (.key "project_id") (checkOptional checkText projectId))).and
        (Checked.under (.key "namespace_id") (checkOptional checkText n))) := by
    simp [make, ofEntries, Field.projectId, Field.namespaceId, Spelling.defaulted,
      List.lookup_cons]
  rw [fields, checkOptional_eq (checkText_eq projectId), checkOptional_eq (checkText_eq n)]
  simp only [Checked.orInvalid_eq_ok_iff, Checked.and_eq_ok, Checked.under_eq_ok,
    Checked.orComplain_eq_ok_iff]
  constructor
  · rintro ⟨_, _, ⟨_, _, made, project, rfl⟩, scope, rfl⟩
    cases made
    exact ⟨project, scope⟩
  · rintro ⟨project, scope⟩
    exact ⟨_, _, ⟨_, _, rfl, project, rfl⟩, scope, rfl⟩

/-- A namespace is read as the text that it is, if it is one. -/
theorem Value.IsNamespace.orNothing_spelling? {n : Value} (h : n.IsNamespace) :
    n.orNothing Value.spelling? = some n.asText? := by
  rcases h with isNone | isText
  · rw [orNothing, if_pos isNone, asText?_of_isNone isNone]
  · have spelt : n.spelling? = n.asText? := by
      rw [← asText?_content]
      rcases content_of_isSome isText with ⟨s, seen⟩ | ⟨m, seen⟩
      · rw [spelling?, seen]
      · rw [spelling?, seen]
    rw [orNothing, isNone_of_isSome isText, spelt, asText?_eq_some_textOf isText]
    rfl

/-- The leaves of a compiled query are the comparisons of its units, one by one:
`Query.mirrors_of_compile` and `Filter.Mirrors.leaves` put together. -/
theorem Query.leaves_of_compile {q : Query} {scope n : Value} {m : QueryMessage Value}
    (units : ∀ u ∈ q.filters, u.IsConditions) (effective : effectiveScope q.config scope = .ok n)
    (compiled : (q.compile scope).result = .ok m) :
    List.Forall₂ (fun (c : Comparison) leaf =>
      PropertyFilter.Compares n c.property c.op c.operand leaf) (comparisonsIn q.filters)
      m.leaves := by
  obtain ⟨fs, each, filter⟩ := mirrors_of_compile units effective compiled
  rw [QueryMessage.leaves, filter, Filter.leaves_compose, comparisonsIn_eq_flatMap,
    leavesOfFilters_eq_flatMap]
  exact List.rel_flatMap each fun u f mirrors => mirrors.leaves

/-- A request is about the namespace that is given, or else about the configured one. So are the
unpinned keys in its query, which is the compiled one: each leaf `BelongsTo` the `namespaceId` of
the partition. -/
theorem Query.request_tenant {q : Query} {scope projectId dflt strict : Value}
    {m : RequestMessage Value} (units : ∀ u ∈ q.filters, u.IsConditions)
    (isNamespace : scope.IsNamespace) (configured : q.config.content = .config dflt strict)
    (isDefault : dflt.IsNamespace) (requested : (q.request scope projectId).result = .ok m) :
    m.partitionId.namespaceId = (if scope.isNone then dflt else scope).asText? ∧
      (q.compile scope).result = .ok m.query ∧
      List.Forall₂ (fun (c : Comparison) leaf =>
        PropertyFilter.BelongsTo m.partitionId.namespaceId c.operand leaf)
        (comparisonsIn q.filters) m.query.leaves := by
  have effective : effectiveScope q.config scope = .ok (if scope.isNone then dflt else scope) := by
    unfold effectiveScope defaultScope
    rw [configured]
    cases scope.isNone <;> rfl
  -- The request and the compilation both ask for the namespace; from here on it is only one.
  generalize counts : (if scope.isNone then dflt else scope) = n at effective ⊢
  have counts : n.IsNamespace := by
    subst counts
    split
    · exact isDefault
    · exact isNamespace
  obtain ⟨made, compiled⟩ := (request_eq_ok_iff effective).mp requested
  obtain ⟨-, isTenant⟩ := PartitionId.make_eq_ok_iff.mp made
  rw [counts.orNothing_spelling?, Option.some.injEq] at isTenant
  refine ⟨isTenant.symm, compiled, ?_⟩
  rw [← isTenant]
  refine (leaves_of_compile units effective compiled).imp ?_
  intro c leaf compares
  exact compares.belongsTo counts

/-- A builder with the default namespace `d` whose units have an unpinned key, a pinned one and a
mapping, asked for the empty namespace: the empty one counts, and not the default. -/
theorem Query.request_tenant_empty :
    let key (own : Value) : Value := .key (.tuple [.tuple [.text "Team", .text "spurs"]]) own
    let compare (mark : Nat) (operand : Value) : Value :=
      .comparison mark false (.text "team") (.member (.property .equal)) operand
    let q : Query := { Query.new (.config (.text "d") (.bool false)) with
      filters := [compare 1 (key .none), .combination 2 (.member (.composite .or))
        [compare 3 (key (.text "a")), compare 4 (.mapping [(.text "keyValue", key .none)])]] }
    ∃ m : RequestMessage Value,
      ((∀ u ∈ q.filters, u.IsConditions) ∧ (Value.text "").IsNamespace ∧
        q.config.content = .config (.text "d") (.bool false) ∧ (Value.text "d").IsNamespace ∧
        (q.request (.text "") (.text "p")).result = .ok m) ∧
      m.partitionId.namespaceId = some "" ∧ (q.compile (.text "")).result = .ok m.query ∧
      List.Forall₂ (fun (c : Comparison) leaf =>
        PropertyFilter.BelongsTo m.partitionId.namespaceId c.operand leaf)
        (comparisonsIn q.filters) m.query.leaves := by
  intro key compare q
  have units : ∀ u ∈ q.filters, u.IsConditions := by
    intro u hu
    simp only [q, List.mem_cons, List.not_mem_nil, or_false] at hu
    rcases hu with rfl | rfl
    · exact .comparison trivial
    · refine .combination trivial fun p hp => ?_
      simp only [List.mem_cons, List.not_mem_nil, or_false] at hp
      rcases hp with rfl | rfl <;> exact .comparison trivial
  have isNamespace : (Value.text "").IsNamespace := .inr rfl
  have configured : q.config.content = .config (.text "d") (.bool false) := rfl
  have isDefault : (Value.text "d").IsNamespace := .inr rfl
  have succeeds : ∃ m, (q.request (.text "") (.text "p")).result = .ok m := ⟨_, rfl⟩
  obtain ⟨m, requested⟩ := succeeds
  exact ⟨m, ⟨units, isNamespace, configured, isDefault, requested⟩,
    request_tenant units isNamespace configured isDefault requested⟩

end EntityQuery
