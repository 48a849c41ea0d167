/-
  The direction of a relation. A statement reads the path of a relation from the end whose table
  is the owner's, and from its last domain where neither end has that table (`related_starts_iff`);
  a lookup reads it from its last domain where the name of the field holds that of the first domain.
  Each of them is a walk from a key to a target table, and the two walks are one if and only if the
  name of the field and the owner's table ask for the same end (`related_lookup_alike_iff`).
-/
import CriteriaSql.Proofs.Lookup.Stages
import CriteriaSql.Proofs.Path.Reachability
import CriteriaSql.Proofs.Pieces
import CriteriaSql.Proofs.Schemas

namespace CriteriaSql

/-! ## Walks -/

/-- A walk over join tables: the key column from which it starts, and the table it leads to. -/
structure Walk where
  start : String
  target : String
  deriving DecidableEq, Repr

/-- The walk from one domain to another. -/
def Walk.between (s : Settings) (source target : String) : Walk := ⟨s.joinId source, s.table target⟩

/-- The walk of a path between two domains, perhaps from its end. -/
def Walk.along (s : Settings) (first last : String) (reversed : Bool) : Walk :=
  if reversed then .between s last first else .between s first last

/-- Where the tables at the ends differ, so do the walks from them. -/
theorem Walk.along_eq_iff {s : Settings} {first last : String} (h : s.table first ≠ s.table last)
    {reversed reversed' : Bool} :
    along s first last reversed = along s first last reversed' ↔ reversed = reversed' := by
  have hends : between s first last ≠ between s last first := fun heq =>
    h (congrArg Walk.target heq).symm
  cases reversed <;> cases reversed' <;> simp [along, hends, hends.symm]

/-- The walk of an expanded path. -/
def ExpandedPath.walk (path : ExpandedPath) : Walk := ⟨path.joinIds.headD "", path.targetTable⟩

/-- A walk starts where its first step does. -/
theorem ExpandedPath.walk_of_hops {path : ExpandedPath} {hop : Hop} {hops : List Hop}
    (h : path.hops = hop :: hops) : path.walk = ⟨hop.source, path.targetTable⟩ := by
  rw [walk, List.headD_eq_head?_getD, head?_joinIds h]
  rfl

/-- A path that is read from its end leads to its first domain. -/
theorem DomainPath.walk_expand {path : DomainPath} {first last : String} {between : List String}
    (h : path.domains = first :: (between ++ [last])) (s : Settings) (reversed : Bool) :
    (path.expand s reversed).walk = .along s first last reversed := by
  rw [ExpandedPath.walk, ExpandedPath.targetTable, List.headD_eq_head?_getD,
    List.getLastD_eq_getLast?, (joinIds_ends h s reversed).1, (tables_ends h s reversed).2]
  cases reversed <;> rfl

/-! ## Statements -/

namespace RowTest

/-- The column of the innermost condition. -/
def innermost : RowTest → String
  | equals column _ => column
  | oneOf column _ => column
  | selected _ _ _ test => test.innermost

theorem innermost_reached (column : String) (test : RowTest) (hop : Hop) (hops : List Hop) :
    (reached column test hop hops).innermost = test.innermost := by
  induction hops generalizing test hop with
  | nil => rfl
  | cons next hops ih => rw [reached, ih, innermost]

end RowTest

/-- A union of clauses, one for each owner, that read the target table of a walk under conditions
    whose innermost column is the start of the walk. -/
def Related.Walks (owners : List Scalar) (f : Statement) (walk : Walk) : Prop :=
  ∃ (columns : String) (test : Scalar → RowTest),
    (∀ owner, (test owner).innermost = walk.start) ∧
    f = union (fun owner =>
      head columns owner ++ " FROM " ++ walk.target ++ " WHERE " ++ (test owner).sql) owners

/-- The clause of a relation over several domains reads the target table under the condition that
    the steps of the path reach its id from the owner. -/
theorem Related.joinedClause_eq (columns target : String) (hop : Hop) (hops : List Hop)
    (owner : Scalar) :
    joinedClause columns target hop hops owner =
      head columns owner ++ " FROM " ++ target ++ " WHERE " ++
        (RowTest.reached "id" (.equals hop.source owner) hop hops).sql := by
  have hwhere : Fragment.ofText " WHERE id IN (" =
      Fragment.ofText " WHERE " ++ (Fragment.ofText "id" ++ Fragment.ofText " IN (") := by rfl
  rw [RowTest.sql_reached, ← Fragment.append_assoc, ← Fragment.append_assoc,
    Fragment.append_assoc _ (Fragment.ofText " WHERE "), ← hwhere]
  rfl

section Owners

variable {owner joined : RecordType} {s : Settings} {field first : String} {schema : EntitySchema}
  {relation : Relation} {ownerTable : String} {owners : List Scalar}

/-- The statement of a relation over several domains, whose path is read from the end if the table
    of the first domain is not the owner's. -/
theorem RecordType.related_of_long {joinedSchema : EntitySchema}
    (howner : owner.asEntity s = .ok schema) (hrelation : schema.relation field = .ok relation)
    (htable : schema.table.render .empty = .ok ownerTable)
    (hjoined : joined.asEntity s = .ok joinedSchema)
    (hfirst : relation.path.domains.head? = some first)
    (hlong : 2 ≤ relation.path.domains.length) (howners : owners ≠ []) :
    let path := relation.path.expand s (Related.readsFromEnd s ownerTable first)
    ∃ hop hops, path.hops = hop :: hops ∧
      owner.related joined s field owners = .ok (some (Related.union
        (Related.joinedClause joinedSchema.selectList path.targetTable hop hops) owners)) := by
  intro path
  obtain ⟨hop, hops, hhops⟩ :=
    relation.path.exists_hops s (Related.readsFromEnd s ownerTable first) hlong
  refine ⟨hop, hops, hhops, Related.statement_eq_ok.2 (Or.inr ⟨howners, _, ?_, rfl⟩)⟩
  have hclause := Related.relationClause_of_hops field joinedSchema.selectList hfirst hlong hhops
  exact Related.ownerClause_eq_ok.2 ⟨schema, howner, relation, hrelation, joinedSchema, hjoined,
    ownerTable, htable, _, hclause, id, rfl, rfl⟩

/-- What a statement of related entities is built from. -/
theorem RecordType.exists_of_related {f : Statement} (howner : owner.asEntity s = .ok schema)
    (h : owner.related joined s field owners = .ok (some f)) :
    owners ≠ [] ∧ (∃ ownerTable, schema.table.render .empty = .ok ownerTable) ∧
      ∃ joinedSchema, joined.asEntity s = .ok joinedSchema := by
  obtain ⟨-, hnone⟩ | ⟨howners, clause, hclause, -⟩ := Related.statement_eq_ok.1 h
  · cases hnone
  obtain ⟨schema', howner', -, -, joinedSchema, hjoined, ownerTable, htable, -⟩ :=
    Related.ownerClause_eq_ok.1 hclause
  obtain rfl := ok_unique howner howner'
  exact ⟨howners, ⟨ownerTable, htable⟩, joinedSchema, hjoined⟩

/-- The statement of a relation over several domains walks its path, read from the end if the table
    of the first domain is not the owner's. -/
theorem Related.walks_of_related {f : Statement} (hstatic : owner.tableFields = [])
    (howner : owner.asEntity s = .ok schema) (hrelation : schema.relation field = .ok relation)
    (hfirst : relation.path.domains.head? = some first)
    (hlong : 2 ≤ relation.path.domains.length)
    (h : owner.related joined s field owners = .ok (some f)) :
    Walks owners f (relation.path.expand s (readsFromEnd s owner.table first)).walk := by
  obtain ⟨howners, -, joinedSchema, hjoined⟩ := RecordType.exists_of_related howner h
  obtain ⟨names, hschema⟩ := RecordType.entitySchema_built howner
  have htable : schema.table.render .empty = .ok owner.table :=
    Template.render_of_static hschema.table hstatic .empty
  obtain ⟨hop, hops, hhops, hf⟩ :=
    RecordType.related_of_long howner hrelation htable hjoined hfirst hlong howners
  obtain rfl := Option.some.inj (ok_unique h hf)
  refine ⟨joinedSchema.selectList, fun id => .reached "id" (.equals hop.source id) hop hops,
    fun id => ?_, ?_⟩
  · rw [RowTest.innermost_reached, ExpandedPath.walk_of_hops hhops]
    rfl
  · simp only [← joinedClause_eq]
    rfl

/-! ## Owners at neither end -/

/-- The statement of a relation over several domains starts from one of the ends of its path: from
    the first domain if its table is the owner's, and else from the last one, whose key is compared
    with the owners' ids whatever its table is. So the path starts with the owner's table if and
    only if that is the table of one of the ends; and there is a statement for an owner at neither
    end as there is for any other. -/
theorem RecordType.related_starts_iff {last : String} {between : List String}
    (howner : owner.asEntity s = .ok schema) (hrelation : schema.relation field = .ok relation)
    (hdomains : relation.path.domains = first :: (between ++ [last]))
    (htable : schema.table.render .empty = .ok ownerTable) :
    let path := relation.path.expand s (Related.readsFromEnd s ownerTable first)
    let start := if ownerTable = s.table first then first else last
    path.tables.head? = some (s.table start) ∧ path.joinIds.head? = some (s.joinId start) ∧
    (path.tables.head? = some ownerTable ↔
      ownerTable = s.table first ∨ ownerTable = s.table last) ∧
    (∀ (joined : RecordType) (owners : List Scalar) f,
      owner.related joined s field owners = .ok (some f) →
        ∃ columns hop hops, path.hops = hop :: hops ∧
          f = Related.union (fun id => Related.head columns id ++ " FROM " ++ path.targetTable ++
            " WHERE " ++ (RowTest.reached "id" (.equals (s.joinId start) id) hop hops).sql)
              owners) ∧
    ∀ (joined : RecordType) (owners : List Scalar) joinedSchema,
      joined.asEntity s = .ok joinedSchema → owners ≠ [] →
        ∃ f, owner.related joined s field owners = .ok (some f) := by
  intro path start
  have hfirst := DomainPath.head?_domains hdomains
  have hlong := DomainPath.two_le_length_domains hdomains
  -- the owner's table is compared with that of the first domain, and with no other
  have hstart : (if Related.readsFromEnd s ownerTable first then last else first) = start := by
    unfold Related.readsFromEnd start
    by_cases hsame : ownerTable = s.table first <;> simp [hsame]
  have htables : path.tables.head? = some (s.table start) := by
    rw [← hstart]
    exact (DomainPath.tables_ends hdomains s _).1
  have hkeys : path.joinIds.head? = some (s.joinId start) := by
    rw [← hstart]
    exact (DomainPath.joinIds_ends hdomains s _).1
  refine ⟨htables, hkeys, ?_, ?_, ?_⟩
  · rw [htables, Option.some.injEq]
    unfold start
    split
    next hsame => simp [hsame]
    next hdiffer => simp [hdiffer, eq_comm]
  · intro joined owners f h
    obtain ⟨howners, -, joinedSchema, hjoined⟩ := exists_of_related howner h
    obtain ⟨hop, hops, hhops, hf⟩ :=
      related_of_long howner hrelation htable hjoined hfirst hlong howners
    obtain rfl := Option.some.inj (ok_unique h hf)
    have hsource : hop.source = s.joinId start :=
      Option.some.inj ((ExpandedPath.head?_joinIds hhops).symm.trans hkeys)
    refine ⟨joinedSchema.selectList, hop, hops, hhops, ?_⟩
    simp only [← hsource, ← Related.joinedClause_eq]
    rfl
  · intro joined owners joinedSchema hjoined howners
    obtain ⟨hop, hops, -, hf⟩ :=
      related_of_long howner hrelation htable hjoined hfirst hlong howners
    exact ⟨_, hf⟩

set_option maxRecDepth 20000 in
theorem RecordType.related_starts_roles :
    (rolesOfUser.path.expand .default false).tables.head? = some "t_user" ∧
      ∃ f, userView.related itemView .default "roles" [.int 1] = .ok (some f) := by
  have hrelation : userSchema.relation "roles" = .ok rolesOfUser := by cbv
  have hdomains : rolesOfUser.path.domains = "user" :: ([] ++ ["role"]) := rfl
  have htable : userSchema.table.render .empty = .ok "t_user" := by cbv
  have hreads : Related.readsFromEnd .default "t_user" "user" = false := by cbv
  have huser : "t_user" = Settings.default.table "user" := by cbv
  obtain ⟨schema, hjoined⟩ : ∃ schema, itemView.asEntity .default = .ok schema := ⟨_, by cbv⟩
  obtain ⟨-, -, hends, -, hbuilt⟩ :=
    related_starts_iff asEntity_userView hrelation hdomains htable
  rw [hreads] at hends
  exact ⟨hends.2 (Or.inl huser), hbuilt itemView [.int 1] schema hjoined (by decide)⟩

/-- Members of a club, who are neither users nor roles, with the roles of users. -/
def memberView : RecordType :=
  ⟨"MemberView", some ["id", "roles"], "t_member", none, none, [("roles", .relation rolesOfUser)]⟩

set_option maxRecDepth 20000 in
/-- The id of a member is compared with the keys of roles. -/
theorem RecordType.related_memberView :
    memberView.related itemView .default "roles" [.int 1] =
        .ok (some ⟨"SELECT ? AS PK_FOR_JOIN, id FROM t_user WHERE id IN " ++
          "(SELECT userId FROM t_user_and_role WHERE roleId = ?)", [.int 1, .int 1]⟩) ∧
      (rolesOfUser.path.expand .default (Related.readsFromEnd .default "t_member" "user")).tables =
        ["t_role", "t_user"] := by
  constructor <;> cbv

end Owners

/-! ## Lookups -/

/-- The walk of a lookup: the foreign field of its outermost join, and the collection of its
    innermost one. -/
def Stage.walk (stage : Stage) : Option Walk :=
  match stage.joins.head?, stage.joins.getLast? with
  | some outermost, some innermost => some ⟨outermost.foreignField, innermost.collection⟩
  | _, _ => none

/-- The walk of the lookup of a document. -/
def Json.walk (document : Json) : Option Walk := (Stage.ofJson? document).bind Stage.walk

theorem Stage.walk_toJson (stage : Stage) : stage.toJson.walk = stage.walk := by
  rw [Json.walk, stage.ofJson?_toJson]
  rfl

/-- The lookup of a relation over several domains walks its path, read from the end if the name of
    the field asks for the first domain. -/
theorem Relation.walk_pathLookup {relation : Relation} {s : Settings} {filter : DocumentFilter}
    {field : String} {schema : EntitySchema} {stage : Stage}
    (h : relation.pathLookup s filter field schema.projection = .ok stage) :
    stage.toJson.walk = some (relation.path.expand s (relation.isReversed field)).walk := by
  obtain ⟨hop, hops, hhops, hjoins⟩ := Lookup.joins_overPath (by rfl) (by rfl) h
  rw [stage.walk_toJson, Stage.walk, hjoins, List.head?_cons, ← List.cons_append,
    List.getLast?_concat, ExpandedPath.walk_of_hops hhops]

/-! ## Both -/

/-- The statement and the lookup of a relation whose path has the owner's table at one end. The
    statement starts from that end, the lookup from the first domain unless the field is named for
    it, so they walk alike if and only if the field is named for the first domain exactly where the
    owner's table is that of the last one. -/
theorem related_lookup_alike_iff {owner joined view : RecordType} {s : Settings} {q : Query}
    {field first last : String} {between : List String} {schema : EntitySchema}
    {relation : Relation} {owners : List Scalar} {f : Statement} {stage : Stage}
    (hstatic : owner.tableFields = [])
    (hends : owner.table = s.table first ∨ owner.table = s.table last)
    (hdiffer : s.table first ≠ s.table last)
    (howner : owner.asEntity s = .ok schema) (hrelation : schema.relation field = .ok relation)
    (hdomains : relation.path.domains = first :: (between ++ [last]))
    (hrelated : owner.related joined s field owners = .ok (some f))
    (hlookup : owner.lookup view s q field = .ok stage) :
    let walk := Walk.along s first last (owner.table = s.table last)
    Related.Walks owners f walk ∧
      stage.toJson.walk = some (.along s first last (Text.contains field first)) ∧
      (stage.toJson.walk = some walk ↔
        (Text.contains field first = true ↔ owner.table = s.table last)) := by
  intro walk
  have hfirst := DomainPath.head?_domains hdomains
  have hlong := DomainPath.two_le_length_domains hdomains
  obtain ⟨-, -, -, -, viewSchema, hview⟩ := RecordType.exists_of_lookup hlookup
  rw [RecordType.lookup_of_ne_one howner hrelation hview (by omega)] at hlookup
  obtain ⟨filter, -, hstage⟩ := bind_eq_ok.1 hlookup
  have hstated := Related.walks_of_related hstatic howner hrelation hfirst hlong hrelated
  have hlooked := Relation.walk_pathLookup hstage
  rw [DomainPath.walk_expand hdomains] at hstated hlooked
  have hreads : Related.readsFromEnd s owner.table first =
      decide (owner.table = s.table last) := by
    unfold Related.readsFromEnd
    rcases hends with htable | htable
    · rw [htable]
      simp [hdiffer]
    · rw [htable]
      simp [hdiffer.symm]
  have hreversed : relation.isReversed field = Text.contains field first := by
    unfold Relation.isReversed DomainPath.isNamedForFirst
    rw [hfirst, decide_eq_true (show relation.path.domains.length > 1 by omega), Bool.true_and]
  rw [hreads] at hstated
  rw [hreversed] at hlooked
  refine ⟨hstated, hlooked, ?_⟩
  rw [hlooked, Option.some.injEq, Walk.along_eq_iff hdiffer, Bool.eq_iff_iff, decide_eq_true_iff]

/-- All items. -/
def allItems : Query := ⟨⟨"ItemQuery", some [], "t_item", none, none, []⟩, .record [], .all⟩

set_option maxRecDepth 20000 in
theorem related_lookup_alike_roles :
    ∃ f stage, userView.related itemView .default "roles" [.int 1] = .ok (some f) ∧
      userView.lookup itemView .default allItems "roles" = .ok stage ∧
      Related.Walks [.int 1] f ⟨"userId", "t_role"⟩ ∧
      stage.toJson.walk = some ⟨"userId", "t_role"⟩ := by
  have hrelation : userSchema.relation "roles" = .ok rolesOfUser := by cbv
  have hrelated : userView.related itemView .default "roles" [.int 1] =
      .ok (some ⟨"SELECT ? AS PK_FOR_JOIN, id FROM t_role WHERE id IN " ++
        "(SELECT roleId FROM t_user_and_role WHERE userId = ?)", [.int 1, .int 1]⟩) := by cbv
  obtain ⟨stage, hlookup⟩ : ∃ stage,
      userView.lookup itemView .default allItems "roles" = .ok stage := ⟨_, by cbv⟩
  have hstatic : userView.tableFields = [] := by cbv
  have huser : userView.table = Settings.default.table "user" := by cbv
  have hrole : Settings.default.table "user" ≠ Settings.default.table "role" := by cbv
  have hdomains : rolesOfUser.path.domains = "user" :: ([] ++ ["role"]) := rfl
  obtain ⟨hwalks, hwalk, -⟩ := related_lookup_alike_iff hstatic (Or.inl huser) hrole
    asEntity_userView hrelation hdomains hrelated hlookup
  have hforth : Walk.along .default "user" "role"
      (userView.table = Settings.default.table "role") = ⟨"userId", "t_role"⟩ := by cbv
  have hnamed : Walk.along .default "user" "role" (Text.contains "roles" "user") =
      ⟨"userId", "t_role"⟩ := by cbv
  rw [hforth] at hwalks
  rw [hnamed] at hwalk
  exact ⟨_, stage, hrelated, hlookup, hwalks, hwalk⟩

set_option maxRecDepth 20000 in
/-- For a field named for users, the statement reads the roles of a user, and the lookup the users
    of a role with the user's id. -/
theorem related_lookup_differ_userRoles :
    userView.related itemView .default "userRoles" [.int 1] =
        .ok (some ⟨"SELECT ? AS PK_FOR_JOIN, id FROM t_role WHERE id IN " ++
          "(SELECT roleId FROM t_user_and_role WHERE userId = ?)", [.int 1, .int 1]⟩) ∧
      ∃ stage, userView.lookup itemView .default allItems "userRoles" = .ok stage ∧
        stage.toJson.walk = some ⟨"roleId", "t_user"⟩ := by
  constructor
  · cbv
  · exact ⟨_, by cbv, by cbv⟩

end CriteriaSql
