/-
  The columns of an entity in statements. An INSERT and an UPDATE name the columns that they write,
  and a select list those that it reads, each as the column of a declared field. The mapping to
  columns keeps names without an underscore apart, so two fields that have none never have a column
  in common (`columns_apart`). Where camel case is mapped, a field with an underscore may have the
  column of another one.
-/
import CriteriaSql.Proofs.Name.CamelCase
import CriteriaSql.Proofs.OwnerUnion
import CriteriaSql.Proofs.Write.Update
import CriteriaSql.Proofs.Write.Upsert
import Mathlib

namespace CriteriaSql

variable {s : Settings} {f : Statement} {type : RecordType} {schema : EntitySchema}

/-! ## Fields and their columns -/

/-- A field with the column that a statement has for it. -/
structure FieldColumn where
  field : String
  column : String
  deriving DecidableEq, Repr

/-- The field of a plan with its column. -/
def FieldPlan.fieldColumn {κ : Type} (plan : FieldPlan κ) : FieldColumn := ⟨plan.name, plan.column⟩

/-- The field of a bound column with the column. -/
def BoundColumn.fieldColumn (b : BoundColumn) : FieldColumn := ⟨b.field, b.column⟩

namespace FieldColumn

variable {columns : List FieldColumn} {mapCamelCase : Bool}

/-- Each field has the column that its name is mapped to. -/
def Mapped (mapCamelCase : Bool) (columns : List FieldColumn) : Prop :=
  ∀ c ∈ columns, c.column = Naming.column mapCamelCase c.field

/-- No two fields without an underscore have a column in common. -/
def Apart (columns : List FieldColumn) : Prop :=
  ∀ a ∈ columns, ∀ b ∈ columns, '_' ∉ a.field.toList → '_' ∉ b.field.toList → a.field ≠ b.field →
    a.column ≠ b.column

theorem Mapped.append {more : List FieldColumn} (h : Mapped mapCamelCase columns)
    (hmore : Mapped mapCamelCase more) : Mapped mapCamelCase (columns ++ more) :=
  List.forall_mem_append.2 ⟨h, hmore⟩

theorem Mapped.apart (h : Mapped mapCamelCase columns) : Apart columns := by
  intro a ha b hb hleft hright hfields hsame
  rw [h a ha, h b hb] at hsame
  exact hfields (Naming.column_inj hleft hright hsame)

end FieldColumn

open FieldColumn (Mapped Apart)

/-! ## Lists of columns -/

namespace EntitySchema

/-- The columns of an entity are those of its fields. -/
theorem mapped_columns (h : type.asEntity s = .ok schema) {plans : List (FieldPlan EntityRole)}
    (hplans : ∀ plan ∈ plans, plan ∈ schema.columns) :
    Mapped s.mapCamelCase (plans.map FieldPlan.fieldColumn) := by
  obtain ⟨names, hb⟩ := RecordType.entitySchema_built h
  intro c hc
  obtain ⟨plan, hplan, rfl⟩ := List.mem_map.1 hc
  exact (hb.plan_of_mem (mem_fields_of_mem_columns (hplans plan hplan))).1

/-- The columns that an UPDATE assigns are those of their fields. -/
theorem mapped_sets (h : type.asEntity s = .ok schema) {record : Record} {presentOnly : Bool}
    {sets : List BoundColumn}
    (hsets : (schema.assignedColumns record presentOnly).mapM record.bindColumn = .ok sets) :
    Mapped s.mapCamelCase (sets.map BoundColumn.fieldColumn) := by
  obtain ⟨names, hb⟩ := RecordType.entitySchema_built h
  intro c hc
  obtain ⟨b, hb', rfl⟩ := List.mem_map.1 hc
  obtain ⟨plan, hplan, hbound⟩ := exists_of_mem_mapM hsets hb'
  obtain ⟨hname, hcolumn, -⟩ := Record.bindColumn_spec hbound
  have hown : plan ∈ schema.columns := (List.mem_filter.1 (List.mem_filter.1 hplan).1).1
  change b.column = Naming.column s.mapCamelCase b.field
  rw [hname, hcolumn, (hb.plan_of_mem (mem_fields_of_mem_columns hown)).1]

/-- The column that an UPDATE finds its row by is that of the id's field. -/
theorem mapped_keys (h : type.asEntity s = .ok schema) {record : Record} {presentOnly : Bool}
    {parts : UpdateParts} (hparts : parts.Of schema record presentOnly) :
    Mapped s.mapCamelCase (parts.keys.map BoundColumn.fieldColumn) := by
  obtain ⟨names, hb⟩ := RecordType.entitySchema_built h
  obtain ⟨id, arg, hid, -, -, hkeys⟩ := hparts.keys_eq
  have hresolve := hb.id
  rw [hid] at hresolve
  intro c hc
  rw [hkeys, List.map_singleton, List.mem_singleton] at hc
  subst hc
  exact (resolveId_spec hresolve).2

end EntitySchema

/-- The clause of a relation begins with the owner's id and the select list. -/
theorem Related.exists_behind_head {field columns ownerTable : String} {relation : Relation}
    {clause : ByOwner} (h : relationClause s field columns ownerTable relation = .ok clause)
    (id : Scalar) : ∃ behind : Fragment, clause id = head columns id ++ behind := by
  unfold relationClause at h
  split at h
  · cases h
  next domain =>
    split at h
    next foreignKey =>
      cases h
      cases relation.cardinality <;>
      · simp only [directClause, Fragment.append_assoc]
        exact ⟨_, rfl⟩
    · cases h
  next first rest =>
    obtain ⟨⟨hop, hops⟩, -, h⟩ := bind_eq_ok.1 h
    cases h
    simp only [joinedClause, Fragment.append_assoc]
    exact ⟨_, rfl⟩

/-! ## Statements -/

/-- The columns of an INSERT of one entity. -/
def Entity.CreateLists (e : Entity) (s : Settings) (f : Statement) (columns : List FieldColumn) :
    Prop :=
  ∃ schema record table, e.type.asEntity s = .ok schema ∧ e.record = .ok record ∧
    f.Inserts e.type (schema.insertColumns record) [record]
      (insertParts table (schema.insertColumns record) 1 "") ∧
    columns = (schema.insertColumns record).map FieldPlan.fieldColumn

/-- The columns of an INSERT of several entities, and those that rows that are there take over. -/
def Entity.BatchLists (type : RecordType) (values : List Datum) (updateColumns : List String)
    (s : Settings) (f : Statement) (columns : List FieldColumn) : Prop :=
  ∃ schema records table, ∃ reused : List (FieldPlan EntityRole), type.asEntity s = .ok schema ∧
    values.mapM (Record.read type.name) = .ok records ∧
    (∀ plan ∈ reused, plan ∈ schema.columns) ∧ reused.map (·.name) = updateColumns ∧
    f.Inserts type schema.batchColumns records (insertParts table schema.batchColumns records.length
      (onDuplicate (reused.map fun plan => takeNew plan.column))) ∧
    columns = (schema.batchColumns ++ reused).map FieldPlan.fieldColumn

/-- The columns that an UPDATE by id assigns, and the one that it finds the row by. -/
def Entity.UpdateLists (e : Entity) (s : Settings) (presentOnly : Bool) (f : Statement)
    (columns : List FieldColumn) : Prop :=
  ∃ schema record parts, e.type.asEntity s = .ok schema ∧ e.record = .ok record ∧
    UpdateParts.Of parts schema record presentOnly ∧ parts.sql = f ∧
    columns = (parts.sets ++ parts.keys).map BoundColumn.fieldColumn

/-- The columns that an UPDATE of the rows of a query assigns. -/
def Entity.PatchLists (e : Entity) (s : Settings) (f : Statement) (columns : List FieldColumn) :
    Prop :=
  ∃ schema record table sets conditions, e.type.asEntity s = .ok schema ∧ e.record = .ok record ∧
    (schema.assignedColumns record true).mapM record.bindColumn = .ok sets ∧
    f = updateOf table (sets.map BoundColumn.sql) conditions ∧
    columns = sets.map BoundColumn.fieldColumn

/-- The columns of the select list for an entity that is found by its id. -/
def RecordType.ByIdLists (type : RecordType) (s : Settings) (f : Statement)
    (columns : List FieldColumn) : Prop :=
  ∃ schema, ∃ behind : Fragment, type.asEntity s = .ok schema ∧
    f = "SELECT " ++ schema.selectList ++ behind ∧
    columns = schema.columns.map FieldPlan.fieldColumn

/-- The columns of the select list in the clause of each owner, before a query restricts it. -/
def RecordType.RelatedLists (joined : RecordType) (s : Settings) (query : Option Query)
    (ids : List Scalar) (f : Statement) (columns : List FieldColumn) : Prop :=
  ∃ schema filter within, ∃ clause : Related.ByOwner, joined.asEntity s = .ok schema ∧
    Related.filterOf s query = .ok filter ∧ Related.restriction s filter = .ok within ∧
    (∀ id, ∃ behind : Fragment, clause id = Related.head schema.selectList id ++ behind) ∧
    f = Related.union (fun id => within (clause id)) ids ∧
    columns = schema.columns.map FieldPlan.fieldColumn

/-- The columns of an entity that the statement of a request has: those that an INSERT or an UPDATE
    writes, and those of an entity's select list. What a caller gives as a select list is not looked
    at. -/
def Request.Lists (s : Settings) (f : Statement) (columns : List FieldColumn) : Request → Prop
  | select _ _ | selectId _ | selectJoined _ _ _ | count _ | delete _ | deleteById _ _ =>
    columns = []
  | create e => e.CreateLists s f columns
  | createBatch type values updateColumns =>
    Entity.BatchLists type values updateColumns s f columns
  | update e => e.UpdateLists s false f columns
  | patchById e => e.UpdateLists s true f columns
  | patchByQuery e _ => e.PatchLists s f columns
  | selectById type _ given =>
    given = [] ∧ type.ByIdLists s f columns ∨ given ≠ [] ∧ columns = []
  | related _ joined _ ids => joined.RelatedLists s none ids f columns
  | relatedWhere _ joined q _ ids => joined.RelatedLists s (some q) ids f columns

namespace Entity

theorem exists_createLists {e : Entity} (h : e.create s = .ok f) :
    ∃ columns, e.CreateLists s f columns := by
  obtain ⟨schema, record, table, hschema, hrecord, hinserts⟩ := create_inserts h
  exact ⟨_, schema, record, table, hschema, hrecord, hinserts, rfl⟩

theorem exists_batchLists {values : List Datum} {updateColumns : List String}
    (h : createBatch type values s updateColumns = .ok (some f)) :
    ∃ columns, BatchLists type values updateColumns s f columns := by
  obtain ⟨-, schema, records, table, updates, hschema, hrecords, hupdates, hinserts⟩ :=
    createBatch_inserts h
  obtain ⟨reused, hreused, hnames, rfl⟩ := EntitySchema.exists_reused hupdates
  exact ⟨_, schema, records, table, reused, hschema, hrecords, hreused, hnames, hinserts, rfl⟩

theorem exists_updateLists {e : Entity} {presentOnly : Bool}
    (h : e.updateById s presentOnly = .ok f) :
    ∃ columns, e.UpdateLists s presentOnly f columns := by
  obtain ⟨schema, record, parts, hschema, hrecord, hparts, hsql⟩ := updateById_eq_sql.1 h
  exact ⟨_, schema, record, parts, hschema, hrecord, hparts, hsql, rfl⟩

theorem exists_patchLists {e : Entity} {q : Query} (h : e.patchByQuery s q = .ok f) :
    ∃ columns, e.PatchLists s f columns := by
  obtain ⟨schema, hschema, record, hrecord, assignments, hassignments, table, -, -, -, -, -,
    conditions, -, rfl⟩ := patchByQuery_eq_ok.1 h
  obtain ⟨sets, hsets, -, rfl⟩ := EntitySchema.assignments_eq_ok.1 hassignments
  exact ⟨_, schema, record, table, sets, conditions, hschema, hrecord, hsets, rfl, rfl⟩

end Entity

namespace RecordType

theorem exists_byIdLists {id : Id} (h : type.selectById s id [] = .ok f) :
    ∃ columns, type.ByIdLists s f columns := by
  obtain ⟨schema, hschema, -, -, table, -, rfl⟩ := selectById_eq_ok.1 h
  exact ⟨_, schema, _, hschema, rfl, rfl⟩

theorem exists_relatedLists {owner joined : RecordType} {field : String} {query : Option Query}
    {ids : List Scalar} (h : owner.relatedTo joined s field query ids = .ok (some f)) :
    ∃ columns, joined.RelatedLists s query ids f columns := by
  have hids : ids ≠ [] := by
    rintro rfl
    cases query with
    | none => cases h
    | some q =>
      obtain ⟨schema, -, record, -, hnone⟩ := relatedWhere_eq_ok.1 h
      cases hnone
  obtain ⟨filter, hfilter, clause, hclause, hf⟩ := (relatedTo_eq_ok hids).1 h
  obtain ⟨ownerSchema, -, relation, -, joinedSchema, hjoined, ownerTable, -, base, hbase, within,
    hwithin, rfl⟩ := Related.ownerClause_eq_ok.1 hclause
  exact ⟨_, joinedSchema, filter, within, base, hjoined, hfilter, hwithin,
    Related.exists_behind_head hbase, (Option.some.inj hf).symm, rfl⟩

end RecordType

namespace Request

variable {r : Request} {columns : List FieldColumn}

theorem exists_lists (h : r.statement s = .ok (some f)) : ∃ columns, r.Lists s f columns := by
  cases r with
  | select | selectId | selectJoined | count | delete | deleteById => exact ⟨[], rfl⟩
  | create e => exact Entity.exists_createLists (map_some_eq_ok.1 h)
  | createBatch type values updateColumns => exact Entity.exists_batchLists h
  | update e => exact Entity.exists_updateLists (map_some_eq_ok.1 h)
  | patchById e => exact Entity.exists_updateLists (map_some_eq_ok.1 h)
  | patchByQuery e q => exact Entity.exists_patchLists (map_some_eq_ok.1 h)
  | selectById type id given =>
    by_cases hgiven : given = []
    · subst hgiven
      obtain ⟨columns, hlists⟩ := RecordType.exists_byIdLists (map_some_eq_ok.1 h)
      exact ⟨columns, Or.inl ⟨rfl, hlists⟩⟩
    · exact ⟨[], Or.inr ⟨hgiven, rfl⟩⟩
  | related owner joined field ids =>
    have hrelated : owner.relatedTo joined s field none ids = .ok (some f) := h
    exact RecordType.exists_relatedLists hrelated
  | relatedWhere owner joined q field ids =>
    have hrelated : owner.relatedTo joined s field (some q) ids = .ok (some f) := h
    exact RecordType.exists_relatedLists hrelated

/-- The columns of an entity in a statement are those of their fields. -/
theorem Lists.mapped (h : r.Lists s f columns) : Mapped s.mapCamelCase columns := by
  have hnone : columns = [] → Mapped s.mapCamelCase columns := by
    rintro rfl c hc
    cases hc
  cases r with
  | select | selectId | selectJoined | count | delete | deleteById => exact hnone h
  | create e =>
    obtain ⟨schema, record, table, hschema, -, -, rfl⟩ := h
    exact EntitySchema.mapped_columns hschema fun plan hplan => (List.mem_filter.1 hplan).1
  | createBatch type values updateColumns =>
    obtain ⟨schema, records, table, reused, hschema, -, hreused, -, -, rfl⟩ := h
    refine EntitySchema.mapped_columns hschema (List.forall_mem_append.2 ⟨?_, hreused⟩)
    exact fun plan hplan => (List.mem_filter.1 hplan).1
  | update e | patchById e =>
    obtain ⟨schema, record, parts, hschema, -, hparts, -, rfl⟩ := h
    rw [List.map_append]
    exact (EntitySchema.mapped_sets hschema hparts.sets_eq).append
      (EntitySchema.mapped_keys hschema hparts)
  | patchByQuery e q =>
    obtain ⟨schema, record, table, sets, conditions, hschema, -, hsets, -, rfl⟩ := h
    exact EntitySchema.mapped_sets hschema hsets
  | selectById type id given =>
    obtain ⟨-, schema, behind, hschema, -, rfl⟩ | ⟨-, hempty⟩ := h
    · exact EntitySchema.mapped_columns hschema fun plan hplan => hplan
    · exact hnone hempty
  | related owner joined field ids | relatedWhere owner joined q field ids =>
    obtain ⟨schema, filter, within, clause, hschema, -, -, -, -, rfl⟩ := h
    exact EntitySchema.mapped_columns hschema fun plan hplan => hplan

end Request

/-- Snake case has no capital, stays as it is in snake case, and gives back each name without an
    underscore, so it keeps these names apart. Every statement that is built lists the columns of
    its fields, and no two fields without an underscore have a column in common there. -/
theorem columns_apart (s : Settings) :
    (∀ x, '_' ∉ x.toList → Naming.camel (Naming.snake x) = x) ∧
    (∀ x y, '_' ∉ x.toList → '_' ∉ y.toList → Naming.snake x = Naming.snake y → x = y) ∧
    (∀ x, ∀ c ∈ (Naming.snake x).toList, c.isUpper = false) ∧
    (∀ x, Naming.snake (Naming.snake x) = Naming.snake x) ∧
    ∀ (r : Request) f, r.statement s = .ok (some f) →
      (∃ columns, r.Lists s f columns) ∧
        ∀ columns, r.Lists s f columns → Mapped s.mapCamelCase columns ∧ Apart columns := by
  refine ⟨fun x hx => Naming.camel_snake hx, ?_, ?_, Naming.snake_snake, ?_⟩
  · intro x y hx hy hsame
    have hcolumns : Naming.column true x = Naming.column true y := hsame
    exact Naming.column_inj hx hy hcolumns
  · intro x c hc
    rw [Naming.toList_snake] at hc
    exact Naming.isUpper_of_mem_snakeChars hc
  · intro r f h
    exact ⟨Request.exists_lists h, fun columns hlists => ⟨hlists.mapped, hlists.mapped.apart⟩⟩

/-- Accounts with the page that they open with. -/
def accountEntity : RecordType :=
  ⟨"AccountEntity", some ["id", "userName", "startHTML"], "t_account", none, none, [("id", .id)]⟩

/-- An account in an application that maps camel case. -/
def createAccount : Request :=
  .create ⟨accountEntity,
    .record [("id", .int ⟨true, .w64⟩ 7), ("userName", .text "ann"), ("startHTML", .text "/")]⟩

set_option maxRecDepth 20000 in
theorem columns_apart_account :
    createAccount.statement { Settings.default with mapCamelCase := true } =
        .ok (some ⟨"INSERT INTO t_account (id, user_name, start_h_t_m_l) VALUES (?, ?, ?)",
          [.int 7, .text "ann", .text "/"]⟩) ∧
      '_' ∉ "startHTML".toList ∧ Naming.snake "startHTML" = "start_h_t_m_l" ∧
      Naming.camel (Naming.snake "startHTML") = "startHTML" ∧
      ∃ f columns, createAccount.Lists { Settings.default with mapCamelCase := true } f columns ∧
        Apart columns := by
  have hstatement : createAccount.statement { Settings.default with mapCamelCase := true } =
      .ok (some ⟨"INSERT INTO t_account (id, user_name, start_h_t_m_l) VALUES (?, ?, ?)",
        [.int 7, .text "ann", .text "/"]⟩) := by cbv
  have hname : '_' ∉ "startHTML".toList := by decide
  obtain ⟨hback, -, -, -, hlists⟩ := columns_apart { Settings.default with mapCamelCase := true }
  obtain ⟨⟨columns, hcolumns⟩, hapart⟩ := hlists _ _ hstatement
  exact ⟨hstatement, hname, by decide, hback _ hname, _, columns, hcolumns,
    (hapart columns hcolumns).2⟩

end CriteriaSql
