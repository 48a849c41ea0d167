/-
  The chain of a path: the join tables in order, each with the key at its place, and then the target
  table. The documents of a relation's lookup and of a lookup of one document join it from the
  outside in; the nested queries of a statement read it from the inside out. All three walk the same
  chain where they read the path in the same direction (`lookups_related_same_chain`), but for the
  name of the id, which is `id` in statements and `_id` in documents.
-/
import CriteriaSql.Proofs.Lookup.Direction

namespace CriteriaSql

/-! ## Chains -/

/-- The join at one place of a path of `n` join tables. Join table `i` is found by key `i`, from key
    `i` of what was found before, and the target table by its id, from key `n`. The walk starts from
    an id. -/
def ExpandedPath.joinAt (path : ExpandedPath) (id : String) (i : Nat) : Join :=
  let key := path.joinIds.getD i ""
  if i = path.joinTables.length then ⟨path.tables.getD i "", key, id⟩
  else ⟨path.joinTables.getD i "", if i = 0 then id else key, key⟩

/-- The joins of a path in the order of its places. `id` is what the id of an entity is called. -/
def ExpandedPath.chain (path : ExpandedPath) (id : String) : List Join :=
  (List.range (path.joinTables.length + 1)).map (path.joinAt id)

section Path

variable {path : DomainPath} {s : Settings} {reversed : Bool} {hop : Hop} {hops : List Hop}

/-- The join at the place of a step. -/
theorem DomainPath.joinAt_of_hop {i : Nat}
    (hi : (path.expand s reversed).hops[i]? = some hop) (id : String) :
    (path.expand s reversed).joinAt id i =
      ⟨hop.table, if i = 0 then id else hop.source, hop.source⟩ := by
  obtain ⟨htable, hsource, -⟩ := ExpandedPath.getElem?_hops.1 hi
  have hlt := (List.getElem?_eq_some_iff.1 htable).1
  unfold ExpandedPath.joinAt
  rw [if_neg hlt.ne, List.getD_eq_getElem?_getD, List.getD_eq_getElem?_getD, htable, hsource]
  rfl

/-- The join at the end of the steps, from the key that the last one reaches. -/
theorem DomainPath.joinAt_length (hhops : (path.expand s reversed).hops = hop :: hops)
    (id : String) :
    (path.expand s reversed).joinAt id (hops.length + 1) =
      ⟨(path.expand s reversed).targetTable, (hops.getLastD hop).target, id⟩ := by
  have hjoins := length_joinTables_of_hops hhops
  have htables := path.length_tables_expand s reversed
  have hdomains := path.length_joinTables_expand s reversed
  have hlast : (path.expand s reversed).hops[hops.length]? = some (hops.getLastD hop) := by
    rw [hhops, List.getLastD_eq_getLast?, ← List.getLast?_cons, List.getLast?_eq_getElem?,
      List.length_cons, Nat.add_sub_cancel]
  obtain ⟨-, -, htarget⟩ := ExpandedPath.getElem?_hops.1 hlast
  have htable : (path.expand s reversed).tables[hops.length + 1]?.getD "" =
      (path.expand s reversed).targetTable := by
    rw [ExpandedPath.targetTable, List.getLastD_eq_getLast?, List.getLast?_eq_getElem?,
      show (path.expand s reversed).tables.length - 1 = hops.length + 1 by omega]
  unfold ExpandedPath.joinAt
  rw [if_pos hjoins.symm, List.getD_eq_getElem?_getD, List.getD_eq_getElem?_getD, htable, htarget]
  rfl

/-- In steps, the chain of a path starts from an id with the first step, goes on with each further
    one and ends with the target table. -/
theorem DomainPath.chain_eq (hhops : (path.expand s reversed).hops = hop :: hops) (id : String) :
    (path.expand s reversed).chain id =
      ⟨hop.table, id, hop.source⟩ ::
        (hops.map Hop.join ++
          [⟨(path.expand s reversed).targetTable, (hops.getLastD hop).target, id⟩]) := by
  have hfirst : (path.expand s reversed).hops[0]? = some hop := by
    rw [hhops, List.getElem?_cons_zero]
  have hfurther :
      (List.range hops.length).map (fun i => (path.expand s reversed).joinAt id (i + 1)) =
        hops.map Hop.join := by
    refine List.ext_getElem (by simp) fun i hleft hright => ?_
    have hi : i < hops.length := by simpa using hright
    have hplace : (path.expand s reversed).hops[i + 1]? = some hops[i] := by
      rw [hhops, List.getElem?_cons_succ, List.getElem?_eq_getElem hi]
    rw [List.getElem_map, List.getElem_map, List.getElem_range, joinAt_of_hop hplace]
    rfl
  unfold ExpandedPath.chain
  rw [length_joinTables_of_hops hhops, List.range_succ, List.map_append, List.map_singleton,
    joinAt_length hhops, List.range_succ_eq_map, List.map_cons, joinAt_of_hop hfirst, List.map_map]
  exact congrArg (fun further => _ :: (further ++ _)) hfurther

end Path

/-! ## Lookups -/

/-- A lookup over a path of at least two domains is made, and joins the chain of the path. -/
theorem Lookup.exists_overPath {path : DomainPath} (hlong : 2 ≤ path.domains.length) (s : Settings)
    (reversed : Bool) (view : String) {after closing : List Stage}
    (hafter : Stage.joinsOf after = []) (hclosing : Stage.joinsOf closing = []) :
    ∃ stage, overPath view after closing (path.expand s reversed) = .ok stage ∧
      stage.toJson.joins = some ((path.expand s reversed).chain idField) := by
  obtain ⟨hop, hops, hhops⟩ := path.exists_hops s reversed hlong
  obtain ⟨stage, hmade⟩ : ∃ stage,
      overPath view after closing (path.expand s reversed) = .ok stage :=
    ⟨_, overPath_eq_ok.2 ⟨hop, hops, hhops, rfl⟩⟩
  obtain ⟨hop', hops', hhops', hjoins⟩ := joins_overPath hafter hclosing hmade
  refine ⟨stage, hmade, ?_⟩
  rw [Stage.joins_toJson, hjoins, DomainPath.chain_eq hhops']

/-- A lookup of one document over several domains. -/
theorem DomainPath.lookup_of_long {path : DomainPath} {view : String}
    (hvalid : path.validate view 1 = .ok ()) (hlong : 2 ≤ path.domains.length) (s : Settings) :
    path.lookup s view =
      Lookup.overPath view [.replaceRootFirst view] [.replaceRootFirst view]
        (path.expand s (path.isNamedForFirst view)) := by
  unfold lookup
  rw [hvalid]
  simp only [bind, Except.bind]
  split
  next domain hone =>
    rw [hone] at hlong
    simp at hlong
  · rfl

theorem Relation.isReversed_of_long {relation : Relation}
    (hlong : 2 ≤ relation.path.domains.length) (field : String) :
    relation.isReversed field = relation.path.isNamedForFirst field := by
  unfold isReversed
  rw [decide_eq_true (show relation.path.domains.length > 1 from hlong), Bool.true_and]

/-! ## Statements -/

namespace RowTest

/-- The joins that a condition on a table stands for, from the innermost level of its queries to the
    table itself. A level finds the rows whose column has what the level within it selects; the
    value that the innermost one is compared with is the id where the walk starts. -/
def joins (id table : String) : RowTest → List Join
  | equals column _ => [⟨table, id, column⟩]
  | oneOf column _ => [⟨table, id, column⟩]
  | selected column select inner test => test.joins id inner ++ [⟨table, select, column⟩]

/-- Each step joins its table to the rows of the step before it, as its key is the one that this
    has reached. -/
theorem joins_reached (id column table : String) (test : RowTest) (hop : Hop) (hops : List Hop)
    (hchain : (hop :: hops).IsChain fun hop next => hop.target = next.source) :
    (reached column test hop hops).joins id table =
      test.joins id hop.table ++
        (hops.map Hop.join ++ [⟨table, (hops.getLastD hop).target, column⟩]) := by
  induction hops generalizing test hop with
  | nil => rfl
  | cons next hops ih =>
    obtain ⟨hkey, hrest⟩ := List.isChain_cons_cons.1 hchain
    rw [reached, ih _ next hrest, joins, hkey, List.getLastD_cons, List.append_assoc]
    rfl

end RowTest

theorem ExpandedPath.unbroken_hops {path : ExpandedPath} {hop : Hop} {hops : List Hop}
    (hhops : path.hops = hop :: hops)
    (hnames : ∀ name ∈ path.joinTables ++ path.joinIds, ' ' ∉ name.toList) :
    ∀ step ∈ hop :: hops, ' ' ∉ step.table.toList ∧ ' ' ∉ step.source.toList ∧
      ' ' ∉ step.target.toList := by
  intro step hstep
  rw [← hhops] at hstep
  obtain ⟨htable, hsource, htarget⟩ := mem_hopsOver hstep
  exact ⟨hnames _ (List.mem_append_left _ htable), hnames _ (List.mem_append_right _ hsource),
    hnames _ (List.mem_append_right _ htarget)⟩

/-- The clause of a relation over several domains reads the target table under a condition that
    joins the chain of the path. Without blanks in the names of the path its text has no other
    reading. -/
theorem Related.joins_relationClause {relation : Relation} {s : Settings} {first : String}
    (field columns ownerTable : String) (hfirst : relation.path.domains.head? = some first)
    (hlong : 2 ≤ relation.path.domains.length) :
    let path := relation.path.expand s (readsFromEnd s ownerTable first)
    ∃ test : Scalar → RowTest,
      relationClause s field columns ownerTable relation =
        .ok (fun owner =>
          head columns owner ++ " FROM " ++ path.targetTable ++ " WHERE " ++ (test owner).sql) ∧
      (∀ owner, (test owner).joins "id" path.targetTable = path.chain "id") ∧
      ((∀ name ∈ path.joinTables ++ path.joinIds, ' ' ∉ name.toList) →
        ∀ owner (other : RowTest), other.Unbroken → other.sql = (test owner).sql →
          other = test owner) := by
  intro path
  obtain ⟨hop, hops, hhops⟩ :=
    relation.path.exists_hops s (readsFromEnd s ownerTable first) hlong
  refine ⟨fun owner => .reached "id" (.equals hop.source owner) hop hops, ?_, fun owner => ?_,
    fun hnames owner other hother hsql => ?_⟩
  · rw [relationClause_of_hops field columns hfirst hlong hhops]
    refine congrArg Except.ok (funext fun owner => ?_)
    exact joinedClause_eq columns path.targetTable hop hops owner
  · have hchain : (hop :: hops).IsChain fun hop next => hop.target = next.source :=
      hhops ▸ ExpandedPath.isChain_hopsOver _ _
    rw [RowTest.joins_reached _ _ _ _ _ _ hchain, DomainPath.chain_eq hhops]
    rfl
  · have hsteps := ExpandedPath.unbroken_hops hhops hnames
    have hstart : (RowTest.equals hop.source owner).Unbroken := (hsteps hop List.mem_cons_self).2.1
    exact RowTest.eq_of_sql_eq hother (RowTest.unbroken_reached (by decide) hstart hsteps) hsql

/-! ## Both -/

/-- A lookup of a relation over several domains and a lookup of one document, of the same name and
    over the same path, have documents that join the chain of the path from the outside to the
    inside. The statement of the relation, where it reads the path in the same direction, joins it
    from the inside to the outside. -/
theorem lookups_related_same_chain {owner view : RecordType} {s : Settings} {q : Query}
    {field : String} {schema viewSchema : EntitySchema} {relation : Relation}
    {filter : DocumentFilter} (howner : owner.asEntity s = .ok schema)
    (hrelation : schema.relation field = .ok relation)
    (hview : view.asEntity s = .ok viewSchema) (hfilter : q.filter s = .ok filter)
    (hlong : 2 ≤ relation.path.domains.length) :
    let path := relation.path.expand s (relation.isReversed field)
    (∃ stage, owner.lookup view s q field = .ok stage ∧
      stage.toJson.joins = some (path.chain Lookup.idField)) ∧
    (∃ stage, relation.path.lookup s field = .ok stage ∧
      stage.toJson.joins = some (path.chain Lookup.idField)) ∧
    ∀ first columns ownerTable, relation.path.domains.head? = some first →
      Related.readsFromEnd s ownerTable first = relation.isReversed field →
      ∃ test : Scalar → RowTest,
        Related.relationClause s field columns ownerTable relation =
          .ok (fun id => Related.head columns id ++ " FROM " ++ path.targetTable ++ " WHERE " ++
            (test id).sql) ∧
        (∀ id, (test id).joins "id" path.targetTable = path.chain "id") ∧
        ((∀ name ∈ path.joinTables ++ path.joinIds, ' ' ∉ name.toList) →
          ∀ id (other : RowTest), other.Unbroken → other.sql = (test id).sql →
            other = test id) := by
  intro path
  refine ⟨?_, ?_, fun first columns ownerTable hfirst hdirection => ?_⟩
  · rw [RecordType.lookup_of_ne_one howner hrelation hview (by omega), hfilter]
    exact Lookup.exists_overPath hlong s _ field rfl rfl
  · obtain ⟨names, hschema⟩ := RecordType.entitySchema_built howner
    rw [DomainPath.lookup_of_long (hschema.relation_spec hrelation).2 hlong,
      ← relation.isReversed_of_long hlong]
    exact Lookup.exists_overPath hlong s _ field rfl rfl
  · have hclause := Related.joins_relationClause field columns ownerTable hfirst hlong (s := s)
    rw [hdirection] at hclause
    exact hclause

/-- Accounts with the permissions of their roles. -/
def accountView : RecordType :=
  ⟨"AccountView", some ["id", "perms"], "t_user", none, none,
    [("perms", .relation ⟨usersToPermissions, .many⟩)]⟩

set_option maxRecDepth 20000 in
theorem lookups_related_same_chain_perms :
    (∃ schema, accountView.asEntity .default = .ok schema ∧
      schema.relation "perms" = .ok ⟨usersToPermissions, .many⟩) ∧
    (∃ stage, accountView.lookup itemView .default allItems "perms" = .ok stage ∧
      stage.toJson.joins = some [⟨"t_user_and_role", "_id", "userId"⟩,
        ⟨"t_role_and_perm", "roleId", "roleId"⟩, ⟨"t_perm", "permId", "_id"⟩]) ∧
    (∃ stage, usersToPermissions.lookup .default "perms" = .ok stage ∧
      stage.toJson.joins = some [⟨"t_user_and_role", "_id", "userId"⟩,
        ⟨"t_role_and_perm", "roleId", "roleId"⟩, ⟨"t_perm", "permId", "_id"⟩]) ∧
    ∃ test : Scalar → RowTest,
      Related.relationClause .default "perms" "id" "t_user" ⟨usersToPermissions, .many⟩ =
        .ok (fun id => Related.head "id" id ++ " FROM " ++ "t_perm" ++ " WHERE " ++
          (test id).sql) ∧
      ∀ id, (test id).joins "id" "t_perm" = [⟨"t_user_and_role", "id", "userId"⟩,
        ⟨"t_role_and_perm", "roleId", "roleId"⟩, ⟨"t_perm", "permId", "id"⟩] := by
  obtain ⟨schema, hschema, hrelation⟩ : ∃ schema, accountView.asEntity .default = .ok schema ∧
      schema.relation "perms" = .ok ⟨usersToPermissions, .many⟩ := ⟨_, by cbv, by cbv⟩
  obtain ⟨viewSchema, hview⟩ : ∃ viewSchema, itemView.asEntity .default = .ok viewSchema :=
    ⟨_, by cbv⟩
  obtain ⟨filter, hfilter⟩ : ∃ filter, allItems.filter .default = .ok filter := ⟨_, by cbv⟩
  have hlong : 2 ≤ usersToPermissions.domains.length := by decide
  have hreversed : Relation.isReversed ⟨usersToPermissions, .many⟩ "perms" = false := by cbv
  have hreads : Related.readsFromEnd .default "t_user" "user" = false := by cbv
  obtain ⟨hlookup, hnested, hrelated⟩ :=
    lookups_related_same_chain hschema hrelation hview hfilter hlong
  obtain ⟨test, hclause, hjoins, -⟩ :=
    hrelated "user" "id" "t_user" rfl (hreads.trans hreversed.symm)
  rw [hreversed] at hlookup hnested hclause hjoins
  have htarget : (usersToPermissions.expand .default false).targetTable = "t_perm" := by cbv
  have hdocuments : (usersToPermissions.expand .default false).chain Lookup.idField =
      [⟨"t_user_and_role", "_id", "userId"⟩, ⟨"t_role_and_perm", "roleId", "roleId"⟩,
        ⟨"t_perm", "permId", "_id"⟩] := by cbv
  have hrows : (usersToPermissions.expand .default false).chain "id" =
      [⟨"t_user_and_role", "id", "userId"⟩, ⟨"t_role_and_perm", "roleId", "roleId"⟩,
        ⟨"t_perm", "permId", "id"⟩] := by cbv
  rw [hdocuments] at hlookup hnested
  rw [htarget] at hclause hjoins
  rw [hrows] at hjoins
  exact ⟨⟨schema, hschema, hrelation⟩, hlookup, hnested, test, hclause, hjoins⟩

end CriteriaSql
