/-
  What statements are assembled from: one lemma for each of the builders, saying which steps have
  to succeed and how the statement is made of what they give.
-/
import CriteriaSql.Proofs.Outcome
import CriteriaSql.Statement.Related

namespace CriteriaSql

variable {s : Settings} {f : Statement}

/-! ## Paths -/

namespace Condition

theorem pathQuery_nil (condition : Fragment) (hop : Hop) :
    pathQuery condition hop [] = hopQuery hop condition := rfl

/-- A path is walked by its first step and then, from the keys that it reaches, by the rest. -/
theorem pathQuery_cons (condition : Fragment) (hop next : Hop) (hops : List Hop) :
    pathQuery condition hop (next :: hops) =
      pathQuery (next.source ++ " IN (" ++ hopQuery hop condition ++ ")") next hops := rfl

/-- The arguments of a path query are those of its first condition. -/
@[simp] theorem args_pathQuery (condition : Fragment) (hop : Hop) (hops : List Hop) :
    (pathQuery condition hop hops).args = condition.args := by
  induction hops generalizing condition hop with
  | nil => simp [pathQuery_nil, hopQuery]
  | cons next hops ih =>
    rw [pathQuery_cons, ih]
    simp [hopQuery]

/-- The arguments of nested queries are those behind the innermost one. -/
@[simp] theorem args_nestedQuery (tail : Fragment) (level : Level) (levels : List Level) :
    (nestedQuery tail level levels).args = tail.args := by
  induction levels generalizing level with
  | nil => simp [nestedQuery]
  | cons next levels ih => simp [nestedQuery, ih]

end Condition

/-! ## Criteria objects -/

theorem CriteriaSchema.conditions_eq_ok {schema : CriteriaSchema} {record : Record}
    {taken : Option Template} {cs : List Fragment} :
    schema.conditions s record taken = .ok cs ↔
      ∃ found, (schema.fields.filter fun plan => !taken.any (·.references plan.name)).mapM
          (fun plan => plan.condition s (record.get plan.name)) = .ok found ∧
        found.filterMap id = cs := by
  simp only [conditions, bind_eq_ok, pure_eq_ok]

namespace Query

variable {q : Query}

theorem rows_eq_ok {schema : CriteriaSchema} {joins : List Template} {taken : Option Template}
    {rows : Rows} :
    q.rows s schema joins taken = .ok rows ↔
      ∃ record, q.record = .ok record ∧ ∃ table, schema.table.render record = .ok table ∧
        ∃ bound, joins.mapM (·.bind record) = .ok bound ∧
        ∃ cs, schema.conditions s record taken = .ok cs ∧ Rows.mk table bound cs = rows := by
  simp only [Query.rows, bind_eq_ok, pure_eq_ok]

theorem selectOver_eq_ok {columns : List String} {extra : Option Template} :
    q.selectOver s columns extra = .ok f ↔
      ∃ schema, q.schema s = .ok schema ∧
        ∃ rows, q.rows s schema (schema.join.toList ++ extra.toList) extra = .ok rows ∧
        ∃ order, q.page.orderBy s.mapCamelCase = .ok order ∧
        q.page.cut s
          ("SELECT " ++ selectList columns ++ rows.sql ++
            optionalClause " GROUP BY " schema.groupBy ++
            optionalClause " ORDER BY " order) = f := by
  simp only [selectOver, bind_eq_ok, pure_eq_ok]

theorem selectJoined_eq_ok {join : String} {columns : List String} :
    q.selectJoined s join columns = .ok f ↔
      ∃ t, Template.parse .join join = .ok t ∧ q.selectOver s columns (some t) = .ok f := by
  simp only [selectJoined, bind_eq_ok]

theorem count_eq_ok :
    q.count s = .ok f ↔
      ∃ schema, q.schema s = .ok schema ∧
        ∃ rows, q.rows s schema schema.join.toList none = .ok rows ∧
        "SELECT " ++ countExpr schema.groupBy ++ rows.sql = f := by
  simp only [count, bind_eq_ok, pure_eq_ok]

theorem delete_eq_ok :
    q.delete s = .ok f ↔
      ∃ schema, q.schema s = .ok schema ∧ ∃ rows, q.rows s schema [] none = .ok rows ∧
        q.page.cut s ("DELETE" ++ rows.sql) = f := by
  simp only [delete, bind_eq_ok, pure_eq_ok]

end Query

/-! ## Entities -/

namespace Entity

variable {e : Entity}

theorem create_eq_ok :
    e.create s = .ok f ↔
      ∃ schema, e.type.asEntity s = .ok schema ∧ ∃ record, e.record = .ok record ∧
        ∃ args, record.bindAll (schema.insertColumns record) = .ok args ∧
        ∃ table, schema.table.render record = .ok table ∧
        insertInto table (schema.insertColumns record) [args] = f := by
  simp only [create, bind_eq_ok, pure_eq_ok]

theorem createBatch_cons_eq_ok {type : RecordType} {first : Datum} {values : List Datum}
    {updateColumns : List String} {result : Option Statement} :
    createBatch type (first :: values) s updateColumns = .ok result ↔
      ∃ schema, type.asEntity s = .ok schema ∧
        ∃ record, Record.read type.name first = .ok record ∧
        ∃ table, schema.table.render record = .ok table ∧
        ∃ rows, (first :: values).mapM (type.batchRow schema) = .ok rows ∧
        ∃ updates, updateColumns.mapM schema.reuse = .ok updates ∧
        some (insertInto table schema.batchColumns rows ++ onDuplicate updates) = result := by
  simp only [createBatch, bind_eq_ok, pure_eq_ok]

theorem updateById_eq_ok {presentOnly : Bool} :
    e.updateById s presentOnly = .ok f ↔
      ∃ schema, e.type.asEntity s = .ok schema ∧ ∃ record, e.record = .ok record ∧
        ∃ sets, schema.assignments record presentOnly = .ok sets ∧
        ∃ table, schema.table.render record = .ok table ∧
        ∃ id, schema.idArgument record = .ok id ∧
        updateOf table sets [columnEquals schema.idColumn id] = f := by
  simp only [updateById, bind_eq_ok, pure_eq_ok]

theorem patchByQuery_eq_ok {q : Query} :
    e.patchByQuery s q = .ok f ↔
      ∃ schema, e.type.asEntity s = .ok schema ∧ ∃ record, e.record = .ok record ∧
        ∃ sets, schema.assignments record true = .ok sets ∧
        ∃ table, schema.table.render record = .ok table ∧
        ∃ criteria, q.schema s = .ok criteria ∧ ∃ values, q.record = .ok values ∧
        ∃ cs, criteria.conditions s values none = .ok cs ∧ updateOf table sets cs = f := by
  simp only [patchByQuery, bind_eq_ok, pure_eq_ok]

end Entity

namespace RecordType

variable {type : RecordType} {id : Id}

theorem deleteById_eq_ok :
    type.deleteById s id = .ok f ↔
      ∃ schema, type.asEntity s = .ok schema ∧ ∃ record, id.record = .ok record ∧
        ∃ table, schema.table.render record = .ok table ∧
        "DELETE" ++ Rows.sql ⟨table, [], [columnEquals schema.idColumn id.value]⟩ = f := by
  simp only [deleteById, bind_eq_ok, pure_eq_ok]

theorem selectById_eq_ok {columns : List String} :
    type.selectById s id columns = .ok f ↔
      ∃ schema, type.asEntity s = .ok schema ∧ ∃ record, id.record = .ok record ∧
        ∃ table, schema.table.render record = .ok table ∧
        "SELECT " ++ schema.byIdList columns ++
          Rows.sql ⟨table, [], [columnEquals schema.idColumn id.value]⟩ = f := by
  simp only [selectById, bind_eq_ok, pure_eq_ok]

end RecordType

/-! ## Relations -/

namespace Related

variable {owner joined : RecordType} {field : String}

theorem filter_apply_eq_ok {filter : Filter} {restriction : Fragment → Fragment} :
    filter.apply s = .ok restriction ↔
      ∃ cs, filter.schema.conditions s filter.record none = .ok cs ∧
        ∃ order, filter.page.orderBy s.mapCamelCase = .ok order ∧
        restrict s filter.page order cs = restriction := by
  simp only [Filter.apply, bind_eq_ok, pure_eq_ok]

theorem ownerClause_eq_ok {filter : Option Filter} {clause : ByOwner} :
    ownerClause s owner joined field filter = .ok clause ↔
      ∃ ownerSchema, owner.asEntity s = .ok ownerSchema ∧
        ∃ relation, ownerSchema.relation field = .ok relation ∧
        ∃ joinedSchema, joined.asEntity s = .ok joinedSchema ∧
        ∃ ownerTable, ownerSchema.table.render .empty = .ok ownerTable ∧
        ∃ base, relationClause s field joinedSchema.selectList ownerTable relation = .ok base ∧
        ∃ within, restriction s filter = .ok within ∧ (fun id => within (base id)) = clause := by
  simp only [ownerClause, bind_eq_ok, pure_eq_ok]

theorem statement_eq_ok {ids : List Scalar} {filter : Option Filter} {result : Option Statement} :
    statement s owner joined field ids filter = .ok result ↔
      ids = [] ∧ none = result ∨
      ids ≠ [] ∧ ∃ clause, ownerClause s owner joined field filter = .ok clause ∧
        some (union clause ids) = result := by
  unfold statement
  split
  next h =>
    rw [List.isEmpty_iff] at h
    simp [h]
  next h =>
    rw [List.isEmpty_iff] at h
    simp only [h, false_and, false_or, ne_eq, not_false_iff, true_and, bind_eq_ok, pure_eq_ok]

end Related

theorem RecordType.relatedWhere_eq_ok {owner joined : RecordType} {q : Query} {field : String}
    {ids : List Scalar} {result : Option Statement} :
    owner.relatedWhere joined s q field ids = .ok result ↔
      ∃ schema, q.schema s = .ok schema ∧ ∃ record, q.record = .ok record ∧
        Related.statement s owner joined field ids (some ⟨schema, record, q.page⟩) =
          .ok result := by
  simp only [relatedWhere, bind_eq_ok]

end CriteriaSql
