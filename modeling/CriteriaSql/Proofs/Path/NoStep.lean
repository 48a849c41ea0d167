/-
  No builder runs out of steps. A path is walked only where it leads from one domain to another:
  the check of a criteria field asks for two domains, and the builders of relations and lookups set
  paths of one domain apart. So whatever else a call is refused for, it is not that its path has no
  step (`noStep_statement`, `noStep_lookup`), for every declaration and every configuration.
-/
import CriteriaSql.Proofs.Faults
import CriteriaSql.Proofs.Lookup.Stages
import CriteriaSql.Proofs.Request
import Mathlib

namespace CriteriaSql

/-- An error of a path that was to be walked and has no step. -/
def Error.IsNoStep : Error → Prop
  | .noStep _ => True
  | _ => False

open Error (BlamesPath IsNoStep)

/-- Where no path is blamed, none is found without a step. -/
theorem Avoids.noStep {α : Type} {x : Except Error α} (h : Avoids BlamesPath x) :
    Avoids IsNoStep x := by
  intro e he hstep
  cases e with
  | noStep => exact h _ he trivial
  | _ => exact hstep

/-! ## Schemas -/

theorem DomainPath.noStep_validate (path : DomainPath) (field : String) (least : Nat) :
    Avoids IsNoStep (path.validate field least) := by
  unfold validate
  split
  · exact .error id
  split
  · exact .error id
  split
  · exact .error id
  · exact .ok

theorem NestedQueries.noStep_validate (queries : NestedQueries) (field : String) :
    Avoids IsNoStep (queries.validate field) := by
  unfold validate
  split
  · exact .error id
  split
  · exact .error id
  · exact .ok

theorem Template.noStep_parse (kind : TemplateKind) (source : String) :
    Avoids IsNoStep (parse kind source) := by
  unfold parse
  dsimp only
  split
  · exact .error id
  · exact .ok

theorem Template.noStep_parseOver (kind : TemplateKind) (names : List String) (source : String) :
    Avoids IsNoStep (parseOver kind names source) := by
  refine (noStep_parse kind source).bind fun t _ => ?_
  split
  · exact .error id
  · exact .ok

theorem EntitySchema.noStep_plan (marks : Marks) (mapCamelCase : Bool) (field : String) :
    Avoids IsNoStep (plan marks mapCamelCase field) := by
  refine .bind ?_ fun _ _ => .ok
  unfold role
  split
  next relation _ => exact .map (relation.path.noStep_validate field 1)
  next => exact .ok

theorem EntitySchema.noStep_resolveId (type : RecordType) (names : List String)
    (mapCamelCase : Bool) : Avoids IsNoStep (resolveId type names mapCamelCase) := by
  unfold resolveId
  dsimp only
  split
  · exact .error fun h => h
  · exact .ok

theorem CriteriaSchema.noStep_plan (marks : Marks) (mapCamelCase : Bool) (field : String) :
    Avoids IsNoStep (plan marks mapCamelCase field) := by
  rw [plan_eq_bind]
  refine .bind ?_ fun _ _ => .ok
  cases hmark : (marks.ofField field).findSome? (markedForm? field (Operator.ofName field).2) with
  | none => exact .ok
  | some form =>
    obtain ⟨mark, -, hform⟩ := List.exists_of_findSome?_eq_some hmark
    cases mark with
    | queryField | subQuery =>
      cases hform
      exact .ok
    | nested queries =>
      cases hform
      exact .map (queries.noStep_validate field)
    | domainPath path =>
      cases hform
      exact .map (path.noStep_validate field 2)
    | _ => cases hform

namespace RecordType

variable (type : RecordType)

theorem noStep_fieldNames : Avoids IsNoStep type.fieldNames := by
  unfold fieldNames
  split
  · exact .ok
  · exact .error id

theorem noStep_checkMarks (names : List String) : Avoids IsNoStep (type.checkMarks names) := by
  unfold checkMarks
  split
  · exact .error id
  · exact .ok

theorem noStep_entitySchema (mapCamelCase : Bool) :
    Avoids IsNoStep (type.entitySchema mapCamelCase) :=
  type.noStep_fieldNames.bind fun names _ => (type.noStep_checkMarks names).bind fun _ _ =>
    (Template.noStep_parseOver .table names type.table).bind fun _ _ =>
    .bind (.mapM fun field _ => EntitySchema.noStep_plan type.marks mapCamelCase field) fun _ _ =>
    (EntitySchema.noStep_resolveId type names mapCamelCase).bind fun _ _ => .ok

theorem noStep_criteriaSchema (mapCamelCase : Bool) :
    Avoids IsNoStep (type.criteriaSchema mapCamelCase) := by
  have hjoin (names : List String) :
      Avoids IsNoStep (type.join.mapM (Template.parseOver .join names)) := by
    cases type.join with
    | none => exact .ok
    | some source =>
      rw [Option.mapM_some]
      exact .map (Template.noStep_parseOver .join names source)
  exact type.noStep_fieldNames.bind fun names _ => (type.noStep_checkMarks names).bind fun _ _ =>
    (Template.noStep_parseOver .table names type.table).bind fun _ _ =>
    (hjoin names).bind fun _ _ =>
    .bind (.mapM fun field _ => CriteriaSchema.noStep_plan type.marks mapCamelCase field)
      fun _ _ => .ok

end RecordType

theorem EntitySchema.noStep_relation (schema : EntitySchema) (field : String) :
    Avoids IsNoStep (schema.relation field) := by
  unfold relation
  split
  · exact .ok
  · exact .error fun h => h

/-! ## Queries -/

section Builders

variable {s : Settings}

namespace Query

variable (q : Query)

theorem noStep_schema : Avoids IsNoStep (q.schema s) := q.type.noStep_criteriaSchema _

theorem noStep_record : Avoids IsNoStep q.record := q.avoids_record.noStep

theorem noStep_rows {schema : CriteriaSchema} (h : q.schema s = .ok schema)
    (joins : List Template) (taken : Option Template) :
    Avoids IsNoStep (q.rows s schema joins taken) :=
  q.noStep_record.bind fun record _ => (schema.table.avoids_render record).noStep.bind fun _ _ =>
    .bind (.mapM fun join _ => (join.avoids_bind record).noStep) fun _ _ =>
    (CriteriaSchema.avoids_conditions h s record taken).noStep.bind fun _ _ => .ok

theorem noStep_selectOver (columns : List String) (extra : Option Template) :
    Avoids IsNoStep (q.selectOver s columns extra) :=
  q.noStep_schema.bind fun _ hschema => (q.noStep_rows hschema _ extra).bind fun _ _ =>
    (q.page.avoids_orderBy s.mapCamelCase).noStep.bind fun _ _ => .ok

theorem noStep_selectJoined (join : String) (columns : List String) :
    Avoids IsNoStep (q.selectJoined s join columns) :=
  (Template.noStep_parse .join join).bind fun t _ => q.noStep_selectOver columns (some t)

theorem noStep_count : Avoids IsNoStep (q.count s) :=
  q.noStep_schema.bind fun _ hschema => (q.noStep_rows hschema _ none).bind fun _ _ => .ok

theorem noStep_delete : Avoids IsNoStep (q.delete s) :=
  q.noStep_schema.bind fun _ hschema => (q.noStep_rows hschema [] none).bind fun _ _ => .ok

theorem noStep_filter : Avoids IsNoStep (q.filter s) :=
  q.noStep_schema.bind fun schema _ => q.noStep_record.bind fun record _ =>
    (schema.avoids_filter record).noStep

end Query

/-! ## Entities -/

theorem Record.noStep_bindAll (record : Record) (plans : List (FieldPlan EntityRole)) :
    Avoids IsNoStep (record.bindAll plans) :=
  .mapM fun plan _ => ((record.get plan.name).avoids_bind plan.name plan.encoding).noStep

namespace EntitySchema

variable (schema : EntitySchema) (record : Record)

theorem noStep_assignments (presentOnly : Bool) :
    Avoids IsNoStep (schema.assignments record presentOnly) := by
  refine .bind (.mapM fun plan _ => ?_) fun sets _ => ?_
  · exact ((record.get plan.name).avoids_bind plan.name plan.encoding).noStep.map
  · split
    · exact .error fun h => h
    · exact .ok

theorem noStep_idArgument : Avoids IsNoStep (schema.idArgument record) := by
  unfold idArgument
  split
  · exact .error fun h => h
  · dsimp only
    split
    · exact .error fun h => h
    · exact (FieldValue.avoids_bind _ _ _).noStep

theorem noStep_reuse (name : String) : Avoids IsNoStep (schema.reuse name) := by
  unfold reuse
  split
  · exact .ok
  · exact .error fun h => h

end EntitySchema

theorem RecordType.noStep_asEntity (type : RecordType) : Avoids IsNoStep (type.asEntity s) :=
  type.noStep_entitySchema _

theorem Id.noStep_record (id : Id) : Avoids IsNoStep id.record := by
  unfold Id.record
  split
  · exact .ok
  · exact (Record.avoids_read _ _).noStep

namespace Entity

variable (e : Entity)

theorem noStep_record : Avoids IsNoStep e.record := (Record.avoids_read _ _).noStep

theorem noStep_create : Avoids IsNoStep (e.create s) :=
  e.type.noStep_asEntity.bind fun schema _ => e.noStep_record.bind fun record _ =>
    (record.noStep_bindAll _).bind fun _ _ =>
    (schema.table.avoids_render record).noStep.bind fun _ _ => .ok

theorem noStep_createBatch (type : RecordType) (values : List Datum)
    (updateColumns : List String) : Avoids IsNoStep (createBatch type values s updateColumns) := by
  cases values with
  | nil => exact .ok
  | cons first values =>
    have hrow (schema : EntitySchema) (value : Datum) :
        Avoids IsNoStep (type.batchRow schema value) :=
      (Record.avoids_read _ _).noStep.bind fun record _ => record.noStep_bindAll _
    exact type.noStep_asEntity.bind fun schema _ => (Record.avoids_read _ _).noStep.bind
      fun record _ => (schema.table.avoids_render record).noStep.bind fun _ _ =>
      .bind (.mapM fun value _ => hrow schema value) fun _ _ =>
      .bind (.mapM fun name _ => schema.noStep_reuse name) fun _ _ => .ok

theorem noStep_updateById (presentOnly : Bool) : Avoids IsNoStep (e.updateById s presentOnly) :=
  e.type.noStep_asEntity.bind fun schema _ => e.noStep_record.bind fun record _ =>
    (schema.noStep_assignments record presentOnly).bind fun _ _ =>
    (schema.table.avoids_render record).noStep.bind fun _ _ =>
    (schema.noStep_idArgument record).bind fun _ _ => .ok

theorem noStep_patchByQuery (q : Query) : Avoids IsNoStep (e.patchByQuery s q) :=
  e.type.noStep_asEntity.bind fun schema _ => e.noStep_record.bind fun record _ =>
    (schema.noStep_assignments record true).bind fun _ _ =>
    (schema.table.avoids_render record).noStep.bind fun _ _ =>
    q.noStep_schema.bind fun _ hcriteria => q.noStep_record.bind fun values _ =>
    (CriteriaSchema.avoids_conditions hcriteria s values none).noStep.bind fun _ _ => .ok

end Entity

theorem RecordType.noStep_deleteById (type : RecordType) (id : Id) :
    Avoids IsNoStep (type.deleteById s id) :=
  type.noStep_asEntity.bind fun schema _ => id.noStep_record.bind fun record _ =>
    (schema.table.avoids_render record).noStep.bind fun _ _ => .ok

theorem RecordType.noStep_selectById (type : RecordType) (id : Id) (columns : List String) :
    Avoids IsNoStep (type.selectById s id columns) :=
  type.noStep_asEntity.bind fun schema _ => id.noStep_record.bind fun record _ =>
    (schema.table.avoids_render record).noStep.bind fun _ _ => .ok

/-! ## Relations -/

theorem RecordType.path_ne_nil {owner : RecordType} {field : String} {schema : EntitySchema}
    {relation : Relation} (howner : owner.asEntity s = .ok schema)
    (hrelation : schema.relation field = .ok relation) : relation.path.domains ≠ [] := by
  obtain ⟨names, hbuilt⟩ := entitySchema_built howner
  exact DomainPath.ne_nil_of_validate (hbuilt.relation_spec hrelation).2

theorem Related.noStep_statement (owner joined : RecordType) (field : String) (ids : List Scalar)
    {filter : Option Filter} (hfilter : Accepted s filter) :
    Avoids IsNoStep (statement s owner joined field ids filter) := by
  have hclause : Avoids IsNoStep (ownerClause s owner joined field filter) := by
    refine owner.noStep_asEntity.bind fun schema howner => ?_
    refine (schema.noStep_relation field).bind fun relation hrelation => ?_
    refine joined.noStep_asEntity.bind fun joinedSchema _ => ?_
    refine (schema.table.avoids_render .empty).noStep.bind fun ownerTable _ => ?_
    refine .bind ?_ fun _ _ => (avoids_restriction hfilter).noStep.bind fun _ _ => .ok
    rcases relationClause_cases (RecordType.path_ne_nil howner hrelation) with
      ⟨-, hrefused⟩ | ⟨-, clause, hclause⟩
    · rw [hrefused]
      exact .error fun h => h
    · rw [hclause]
      exact .ok
  unfold statement
  split
  · exact .ok
  · exact hclause.bind fun _ _ => .ok

/-- No statement is refused for a path without a step. -/
theorem Request.noStep_statement (request : Request) : Avoids IsNoStep (request.statement s) := by
  cases request with
  | select q columns => exact (q.noStep_selectOver columns none).map
  | selectId q => exact (q.noStep_selectOver ["id"] none).map
  | selectJoined q join columns => exact (q.noStep_selectJoined join columns).map
  | count q => exact q.noStep_count.map
  | delete q => exact q.noStep_delete.map
  | create e => exact e.noStep_create.map
  | createBatch type values updateColumns => exact Entity.noStep_createBatch type values _
  | update e => exact (e.noStep_updateById false).map
  | patchById e => exact (e.noStep_updateById true).map
  | patchByQuery e q => exact (e.noStep_patchByQuery q).map
  | deleteById type id => exact (type.noStep_deleteById id).map
  | selectById type id columns => exact (type.noStep_selectById id columns).map
  | related owner joined field ids =>
    exact Related.noStep_statement owner joined field ids (Related.accepted_none s)
  | relatedWhere owner joined q field ids =>
    exact q.noStep_schema.bind fun _ hschema => q.noStep_record.bind fun record _ =>
      Related.noStep_statement owner joined field ids (Related.accepted_of_query hschema record)

/-! ## Lookups -/

theorem DomainPath.two_le_of_not_single {path : DomainPath} (hsome : path.domains ≠ [])
    (hne : ∀ domain, path.domains = [domain] → False) : 2 ≤ path.domains.length := by
  refine two_le_of_ne_one hsome fun hone => ?_
  obtain ⟨domain, hdomain⟩ := List.length_eq_one_iff.1 hone
  exact hne domain hdomain

theorem Lookup.noStep_overPath (view : String) (after closing : List Stage) {path : DomainPath}
    (reversed : Bool) (hlong : 2 ≤ path.domains.length) :
    Avoids IsNoStep (overPath view after closing (path.expand s reversed)) := by
  obtain ⟨hop, hops, hhops⟩ := path.exists_hops s reversed hlong
  rw [overPath_eq_ok.2 ⟨hop, hops, hhops, rfl⟩]
  exact .ok

/-- No lookup of a relation is refused for a path without a step. -/
theorem RecordType.noStep_lookup (owner view : RecordType) (q : Query) (field : String) :
    Avoids IsNoStep (owner.lookup view s q field) := by
  refine owner.noStep_asEntity.bind fun schema howner => ?_
  refine (schema.noStep_relation field).bind fun relation hrelation => ?_
  refine view.noStep_asEntity.bind fun viewSchema _ => ?_
  have hsome := path_ne_nil howner hrelation
  dsimp only
  split
  next domain hone =>
    split
    · exact .error fun h => h
    · split <;> exact .ok
  next hne =>
    have hlong := DomainPath.two_le_of_not_single hsome hne
    exact q.noStep_filter.bind fun _ _ => Lookup.noStep_overPath field _ _ _ hlong

/-- No lookup of a view is refused for a path without a step. -/
theorem DomainPath.noStep_lookup (path : DomainPath) (view : String) :
    Avoids IsNoStep (path.lookup s view) := by
  refine (path.noStep_validate view 1).bind fun _ hvalid => ?_
  split
  next domain hone =>
    split
    · exact .error fun h => h
    · exact .ok
  next hne =>
    have hlong := two_le_of_not_single (ne_nil_of_validate hvalid) hne
    exact Lookup.noStep_overPath view _ _ _ hlong

end Builders

end CriteriaSql
