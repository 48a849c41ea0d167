/-
  What the check of a declared path leaves to the builders. The check of a relation asks a path of
  one domain for a foreign key or a local field; the statements and the lookup of a relation need
  the foreign key. So one combination passes the check and is refused on every later call that gets
  as far as the path (`relation_refused_iff`): a path of one domain that has a local field only.
-/
import CriteriaSql.Proofs.Faults
import CriteriaSql.Proofs.Lookup.Stages
import CriteriaSql.Proofs.OwnerUnion
import Mathlib

namespace CriteriaSql

/-! ## Refusals -/

/-- A computation that fails for an invalid domain path. -/
def RefusesPath {α : Type} (x : Except Error α) : Prop :=
  ∃ e, x = .error e ∧ e.code = "INVALID_DOMAIN_PATH"

theorem Error.blamesPath_of_code {e : Error} (h : e.code = "INVALID_DOMAIN_PATH") :
    e.BlamesPath := by
  cases e with
  | invalidDomainPath => trivial
  | _ => simp [code] at h

namespace RefusesPath

variable {α β : Type}

theorem not_ok (a : α) : ¬RefusesPath (.ok a) := by
  rintro ⟨e, he, -⟩
  cases he

theorem error_iff {e : Error} :
    RefusesPath (.error e : Except Error α) ↔ e.code = "INVALID_DOMAIN_PATH" := by
  constructor
  · rintro ⟨e', he, hcode⟩
    cases he
    exact hcode
  · intro hcode
    exact ⟨e, rfl, hcode⟩

theorem of_fault (field : String) (fault : PathFault) :
    RefusesPath (.error (.invalidDomainPath field fault) : Except Error α) :=
  error_iff.2 rfl

theorem not_of_avoids {x : Except Error α} (h : Avoids Error.BlamesPath x) : ¬RefusesPath x := by
  rintro ⟨e, he, hcode⟩
  exact h e he (Error.blamesPath_of_code hcode)

/-- A step that does not blame a path leaves the refusal to what follows it. -/
theorem bind_iff {x : Except Error α} {k : α → Except Error β} (hx : Avoids Error.BlamesPath x) :
    RefusesPath (x >>= k) ↔ ∃ a, x = .ok a ∧ RefusesPath (k a) := by
  cases x with
  | ok a =>
    constructor
    · intro h
      exact ⟨a, rfl, h⟩
    · rintro ⟨a', ha, h⟩
      cases ha
      exact h
  | error e =>
    constructor
    · intro h
      exact absurd (error_iff.1 h) fun hcode => hx e rfl (Error.blamesPath_of_code hcode)
    · rintro ⟨a, ha, -⟩
      cases ha

theorem bind_ok_iff {x : Except Error α} {k : α → Except Error β} {a : α} (hx : x = .ok a) :
    RefusesPath (x >>= k) ↔ RefusesPath (k a) := by
  rw [hx]
  exact Iff.rfl

/-- A step that blames the path may be followed by steps that do not. -/
theorem bind_avoids_iff {x : Except Error α} {k : α → Except Error β}
    (hk : ∀ a, Avoids Error.BlamesPath (k a)) : RefusesPath (x >>= k) ↔ RefusesPath x := by
  cases x with
  | ok a =>
    constructor
    · intro h
      exact absurd h (not_of_avoids (hk a))
    · intro h
      exact absurd h (not_ok a)
  | error e =>
    have hrest : RefusesPath (.error e : Except Error β) ↔ e.code = "INVALID_DOMAIN_PATH" :=
      error_iff
    exact hrest.trans error_iff.symm

end RefusesPath

/-! ## Relations -/

section Relations

variable {owner joined : RecordType} {s : Settings} {field : String} {schema : EntitySchema}
  {relation : Relation} {joinedSchema : EntitySchema}

namespace Related

theorem relationClause_refused_iff {columns ownerTable : String}
    (hsome : relation.path.domains ≠ []) :
    RefusesPath (relationClause s field columns ownerTable relation) ↔ relation.path.LacksKey := by
  rcases relationClause_cases hsome with ⟨hkey, hclause⟩ | ⟨hkey, clause, hclause⟩
  · rw [hclause]
    exact iff_of_true (RefusesPath.of_fault field .noRelationKey) hkey
  · rw [hclause]
    exact iff_of_false (RefusesPath.not_ok clause) hkey

/-- The clause of an owner is refused where the path lacks its key and the owner's table can be
    named. -/
theorem ownerClause_refused_iff (howner : owner.asEntity s = .ok schema)
    (hrelation : schema.relation field = .ok relation)
    (hjoined : joined.asEntity s = .ok joinedSchema) (hsome : relation.path.domains ≠ [])
    {filter : Option Filter} (hfilter : Accepted s filter) :
    RefusesPath (ownerClause s owner joined field filter) ↔
      (∃ table, schema.table.render .empty = .ok table) ∧ relation.path.LacksKey := by
  unfold ownerClause
  rw [RefusesPath.bind_ok_iff howner, RefusesPath.bind_ok_iff hrelation,
    RefusesPath.bind_ok_iff hjoined, RefusesPath.bind_iff (schema.table.avoids_render .empty)]
  have hclause (ownerTable : String) :
      RefusesPath (relationClause s field joinedSchema.selectList ownerTable relation >>=
          fun base => restriction s filter >>= fun within =>
            (pure fun id => within (base id) : Except Error ByOwner)) ↔ relation.path.LacksKey := by
    refine (RefusesPath.bind_avoids_iff fun base => ?_).trans (relationClause_refused_iff hsome)
    exact .bind (avoids_restriction hfilter) fun _ _ => .ok
  constructor
  · rintro ⟨table, htable, h⟩
    exact ⟨⟨table, htable⟩, (hclause table).1 h⟩
  · rintro ⟨⟨table, htable⟩, hkey⟩
    exact ⟨table, htable, (hclause table).2 hkey⟩

theorem statement_refused_iff (howner : owner.asEntity s = .ok schema)
    (hrelation : schema.relation field = .ok relation)
    (hjoined : joined.asEntity s = .ok joinedSchema) (hsome : relation.path.domains ≠ [])
    {filter : Option Filter} (hfilter : Accepted s filter) (ids : List Scalar) :
    RefusesPath (statement s owner joined field ids filter) ↔
      ids ≠ [] ∧ (∃ table, schema.table.render .empty = .ok table) ∧ relation.path.LacksKey := by
  unfold statement
  split
  next hnil =>
    rw [List.isEmpty_iff] at hnil
    simp [hnil, RefusesPath.not_ok]
  next hids =>
    rw [List.isEmpty_iff] at hids
    refine (RefusesPath.bind_avoids_iff fun _ => .ok).trans ?_
    rw [ownerClause_refused_iff howner hrelation hjoined hsome hfilter]
    simp [hids]

end Related

namespace RecordType

/-- The statement of a relation is refused where its path lacks the key, unless the call ends
    before the path is looked at. -/
theorem relatedTo_refused_iff (howner : owner.asEntity s = .ok schema)
    (hrelation : schema.relation field = .ok relation)
    (hjoined : joined.asEntity s = .ok joinedSchema) (hsome : relation.path.domains ≠ [])
    {query : Option Query} (hquery : ∀ q ∈ query, ∃ criteria, q.schema s = .ok criteria)
    (ids : List Scalar) :
    RefusesPath (owner.relatedTo joined s field query ids) ↔
      relation.path.LacksKey ∧ ids ≠ [] ∧ (∃ table, schema.table.render .empty = .ok table) ∧
        ∀ q ∈ query, ∃ record, q.record = .ok record := by
  cases query with
  | none =>
    have h := Related.statement_refused_iff howner hrelation hjoined hsome
      (Related.accepted_none s) ids
    refine h.trans ⟨?_, ?_⟩
    · rintro ⟨hids, htable, hkey⟩
      exact ⟨hkey, hids, htable, fun q hq => by cases hq⟩
    · rintro ⟨hkey, hids, htable, -⟩
      exact ⟨hids, htable, hkey⟩
  | some q =>
    obtain ⟨criteria, hcriteria⟩ := hquery q rfl
    have hrecord : RefusesPath (owner.relatedWhere joined s q field ids) ↔
        ∃ record, q.record = .ok record ∧ RefusesPath
          (Related.statement s owner joined field ids (some ⟨criteria, record, q.page⟩)) := by
      unfold relatedWhere
      rw [RefusesPath.bind_ok_iff hcriteria]
      exact RefusesPath.bind_iff (Record.avoids_read _ _)
    have hstatement (record : Record) := Related.statement_refused_iff howner hrelation hjoined
      hsome (Related.accepted_of_query hcriteria record) ids
    refine hrecord.trans ?_
    simp only [hstatement, Option.mem_some_iff, forall_eq']
    constructor
    · rintro ⟨record, hread, hids, htable, hkey⟩
      exact ⟨hkey, hids, htable, record, hread⟩
    · rintro ⟨hkey, hids, htable, record, hread⟩
      exact ⟨record, hread, hids, htable, hkey⟩

/-- The lookup of a relation is refused where its path lacks the key. -/
theorem lookup_refused_iff (howner : owner.asEntity s = .ok schema)
    (hrelation : schema.relation field = .ok relation)
    (hjoined : joined.asEntity s = .ok joinedSchema) (hsome : relation.path.domains ≠ [])
    {q : Query} (hquery : ∃ criteria, q.schema s = .ok criteria) :
    RefusesPath (owner.lookup joined s q field) ↔ relation.path.LacksKey := by
  by_cases hone : relation.path.domains.length = 1
  · obtain ⟨domain, hdomain⟩ := List.length_eq_one_iff.1 hone
    rw [lookup_of_one howner hrelation hjoined hdomain]
    unfold Relation.directLookup
    cases hkey : relation.path.foreignKey with
    | none => exact iff_of_true (RefusesPath.of_fault field .noRelationKey) ⟨hone, hkey⟩
    | some key =>
      have hlacks : ¬relation.path.LacksKey := fun h => by cases hkey.symm.trans h.2
      cases relation.cardinality <;> exact iff_of_false (RefusesPath.not_ok _) hlacks
  · have hlong := DomainPath.two_le_of_ne_one hsome hone
    obtain ⟨criteria, hcriteria⟩ := hquery
    obtain ⟨hop, hops, hhops⟩ := relation.path.exists_hops s (relation.isReversed field) hlong
    refine iff_of_false (RefusesPath.not_of_avoids ?_) fun h => hone h.1
    rw [lookup_of_ne_one howner hrelation hjoined hone]
    have hfilter : Avoids Error.BlamesPath (q.filter s) := by
      refine .bind ?_ fun schema _ =>
        .bind (Record.avoids_read _ _) fun record _ => schema.avoids_filter record
      rw [hcriteria]
      exact .ok
    refine hfilter.bind fun filter _ => .bind ?_ fun _ _ => .ok
    rw [ExpandedPath.steps_eq_ok.2 hhops]
    exact .ok

end RecordType

/-- The descriptors of an owner, of what it is joined to and of a query's criteria may all be
    accepted, and a call for a relation still be refused for its path. That is so exactly where the
    path has one domain and no foreign key: the lookup is always refused then, and a statement
    unless there are no owners or the owner's table or the query's values cannot be read. The check
    has let such a path pass for its local field. -/
theorem relation_refused_iff (howner : owner.asEntity s = .ok schema)
    (hrelation : schema.relation field = .ok relation)
    (hjoined : joined.asEntity s = .ok joinedSchema) :
    (relation.path.LacksKey → relation.path.localField ≠ none) ∧
      (∀ query : Option Query, (∀ q ∈ query, ∃ criteria, q.schema s = .ok criteria) → ∀ ids,
        (RefusesPath (owner.relatedTo joined s field query ids) ↔
          relation.path.LacksKey ∧ ids ≠ [] ∧ (∃ table, schema.table.render .empty = .ok table) ∧
            ∀ q ∈ query, ∃ record, q.record = .ok record)) ∧
      ∀ q : Query, (∃ criteria, q.schema s = .ok criteria) →
        (RefusesPath (owner.lookup joined s q field) ↔ relation.path.LacksKey) := by
  obtain ⟨names, hbuilt⟩ := RecordType.entitySchema_built howner
  have hvalid := (hbuilt.relation_spec hrelation).2
  have hsome := DomainPath.ne_nil_of_validate hvalid
  refine ⟨(DomainPath.validate_eq_ok.1 hvalid).2.2, fun query hquery ids => ?_, fun q hquery => ?_⟩
  · exact RecordType.relatedTo_refused_iff howner hrelation hjoined hsome hquery ids
  · exact RecordType.lookup_refused_iff howner hrelation hjoined hsome hquery

end Relations

set_option maxRecDepth 20000 in
theorem relation_refused_orders :
    ∃ itemSchema criteria, userView.asEntity .default = .ok userSchema ∧
      userSchema.relation "orders" = .ok ordersOfUser ∧
      itemView.asEntity .default = .ok itemSchema ∧
      (Query.ofAge "7").schema .default = .ok criteria ∧ ¬ordersOfUser.path.LacksKey ∧
      ¬RefusesPath (userView.relatedTo itemView .default "orders" (some (Query.ofAge "7"))
        [.int 1]) ∧
      ¬RefusesPath (userView.lookup itemView .default (Query.ofAge "7") "orders") := by
  have hrelation : userSchema.relation "orders" = .ok ordersOfUser := by cbv
  obtain ⟨itemSchema, hitem⟩ : ∃ itemSchema, itemView.asEntity .default = .ok itemSchema :=
    ⟨_, by cbv⟩
  obtain ⟨criteria, hcriteria⟩ : ∃ criteria, (Query.ofAge "7").schema .default = .ok criteria :=
    ⟨_, by cbv⟩
  have hkey : ¬ordersOfUser.path.LacksKey := fun h => by cases h.2
  obtain ⟨-, hstatement, hlookup⟩ := relation_refused_iff asEntity_userView hrelation hitem
  refine ⟨_, _, asEntity_userView, hrelation, hitem, hcriteria, hkey, fun h => ?_, fun h => ?_⟩
  · refine hkey ((hstatement (some (Query.ofAge "7")) (fun q hq => ?_) [.int 1]).1 h).1
    cases hq
    exact ⟨_, hcriteria⟩
  · exact hkey ((hlookup (Query.ofAge "7") ⟨_, hcriteria⟩).1 h)

/-- Users with their orders, of which only a local field is named. -/
def keylessView : RecordType :=
  ⟨"UserView", some ["id", "orders"], "t_user", none, none,
    [("orders", .relation ⟨⟨["order"], none, some "orderId"⟩, .many⟩)]⟩

set_option maxRecDepth 20000 in
/-- The declaration is accepted, and every call for the orders is refused for it. -/
theorem keylessView_refused :
    (∃ schema, keylessView.asEntity .default = .ok schema) ∧
      keylessView.related itemView .default "orders" [.int 1] =
        .error (.invalidDomainPath "orders" .noRelationKey) ∧
      keylessView.relatedWhere itemView .default (Query.ofAge "7") "orders" [.int 1] =
        .error (.invalidDomainPath "orders" .noRelationKey) ∧
      keylessView.lookup itemView .default (Query.ofAge "7") "orders" =
        .error (.invalidDomainPath "orders" .noRelationKey) ∧
      (Error.invalidDomainPath "orders" .noRelationKey).code = "INVALID_DOMAIN_PATH" := by
  have hbuilt : ∃ schema, keylessView.asEntity .default = .ok schema := ⟨_, by cbv⟩
  refine ⟨hbuilt, ?_, ?_, ?_, rfl⟩ <;> cbv

end CriteriaSql
