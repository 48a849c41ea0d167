/-
  Rows that are there. An INSERT of several entities may say that rows that are there take the new
  values of some columns. A field may be named for this if it is a column of the entity; whether
  the INSERT has its column is not looked at. The only column that it may not have is that of an
  id that the database makes (`reuses_inserted_iff`).
-/
import CriteriaSql.Proofs.Write.Insertion
import Mathlib

namespace CriteriaSql

variable {s : Settings} {f : Statement} {type : RecordType}

/-- The column takes the value of the new row. -/
def takeNew (column : String) : String := column ++ " = VALUES (" ++ column ++ ")"

namespace EntitySchema

variable {schema : EntitySchema} {name : String}

/-- A field may be named for reuse exactly if it is a column. -/
theorem reuse_eq_ok {update : String} :
    schema.reuse name = .ok update ↔
      ∃ plan, schema.field? name = some plan ∧ plan.kind = .column ∧
        takeNew plan.column = update := by
  unfold reuse
  split
  next plan hplan =>
    rw [Option.filter_eq_some_iff, beq_iff_eq] at hplan
    rw [Except.ok.injEq]
    constructor
    · intro hupdate
      exact ⟨plan, hplan.1, hplan.2, hupdate⟩
    · rintro ⟨plan', hplan', -, hupdate⟩
      rwa [Option.some.inj (hplan.1.symm.trans hplan')]
  next hnone =>
    constructor
    · intro hupdate
      cases hupdate
    · rintro ⟨plan, hplan, hkind, -⟩
      rw [hplan] at hnone
      simp [Option.filter, hkind] at hnone

theorem mem_columns_of_field? {plan : FieldPlan EntityRole} (h : schema.field? name = some plan)
    (hkind : plan.kind = .column) : plan ∈ schema.columns ∧ plan.name = name := by
  have hname := List.find?_some h
  rw [beq_iff_eq] at hname
  exact ⟨List.mem_filter.2 ⟨List.mem_of_find?_eq_some h, by rw [hkind]; rfl⟩, hname⟩

/-- The fields that are named for reuse are columns, and each takes its new value. -/
theorem exists_reused {names updates : List String} (h : names.mapM schema.reuse = .ok updates) :
    ∃ reused : List (FieldPlan EntityRole), (∀ plan ∈ reused, plan ∈ schema.columns) ∧
      reused.map (·.name) = names ∧ reused.map (fun plan => takeNew plan.column) = updates := by
  rw [mapM_eq_ok] at h
  induction h with
  | nil => exact ⟨[], fun _ hm => absurd hm List.not_mem_nil, rfl, rfl⟩
  | cons hname _ ih =>
    obtain ⟨plan, hplan, hkind, rfl⟩ := reuse_eq_ok.1 hname
    obtain ⟨hcolumn, rfl⟩ := mem_columns_of_field? hplan hkind
    obtain ⟨reused, hcolumns, rfl, rfl⟩ := ih
    exact ⟨plan :: reused, List.forall_mem_cons.2 ⟨hcolumn, hcolumns⟩, rfl, rfl⟩

/-- Fields may be named for reuse exactly if each of them is a column. -/
theorem Built.exists_updates_iff {mapCamelCase : Bool} {fieldNames names : List String}
    (h : schema.Built type mapCamelCase fieldNames) :
    (∃ updates, names.mapM schema.reuse = .ok updates) ↔
      ∀ name ∈ names, ∃ plan ∈ schema.columns, plan.name = name := by
  constructor
  · rintro ⟨updates, hupdates⟩ name hname
    obtain ⟨reused, hcolumns, rfl, -⟩ := exists_reused hupdates
    obtain ⟨plan, hplan, hof⟩ := List.mem_map.1 hname
    exact ⟨plan, hcolumns plan hplan, hof⟩
  · intro hall
    induction names with
    | nil => exact ⟨[], rfl⟩
    | cons name names ih =>
      obtain ⟨plan, hplan, rfl⟩ := hall name List.mem_cons_self
      obtain ⟨updates, hupdates⟩ := ih fun name hm => hall name (List.mem_cons_of_mem _ hm)
      obtain ⟨hfield, hkind⟩ := List.mem_filter.1 hplan
      rw [beq_iff_eq] at hkind
      have hreuse := reuse_eq_ok.2 ⟨plan, h.field?_name hfield, hkind, rfl⟩
      refine ⟨takeNew plan.column :: updates, ?_⟩
      rw [mapM_eq_ok] at hupdates ⊢
      exact .cons hreuse hupdates

/-- A column that an INSERT of several entities leaves out is that of the id that the database
    makes. -/
theorem exists_id_of_not_mem_batchColumns {plan : FieldPlan EntityRole}
    (hcolumn : plan ∈ schema.columns) (h : plan ∉ schema.batchColumns) :
    ∃ id, schema.id = some id ∧ id.generated = true ∧ plan.name = id.name := by
  rw [batchColumns, List.mem_filter, not_and, Bool.not_eq_true, Bool.not_eq_false'] at h
  obtain ⟨id, hid, hgenerated, hname⟩ := isGeneratedId_iff.1 (h hcolumn)
  exact ⟨id, hid, hgenerated, hname.symm⟩

end EntitySchema

namespace Entity

/-- An INSERT of several entities with fields named for reuse fails exactly if it does without them,
    or one of the fields is no column. -/
theorem createBatch_refused_iff {first : Datum} {rest : List Datum} {updateColumns : List String} :
    (∃ error, createBatch type (first :: rest) s updateColumns = .error error) ↔
      (∃ error, createBatch type (first :: rest) s [] = .error error) ∨
        ∃ schema, type.asEntity s = .ok schema ∧
          ∃ name ∈ updateColumns, ∀ plan ∈ schema.columns, plan.name ≠ name := by
  constructor
  · rintro ⟨error, herror⟩
    cases hplain : createBatch type (first :: rest) s [] with
    | error error' => exact Or.inl ⟨error', rfl⟩
    | ok plain =>
      obtain ⟨schema, hschema, record, hrecord, table, htable, rows, hrows, -⟩ :=
        createBatch_cons_eq_ok.1 hplain
      obtain ⟨names, hb⟩ := RecordType.entitySchema_built hschema
      refine Or.inr ⟨schema, hschema, ?_⟩
      by_contra hall
      push Not at hall
      obtain ⟨updates, hupdates⟩ := hb.exists_updates_iff.2 hall
      have hok := createBatch_cons_eq_ok.2 ⟨schema, hschema, record, hrecord, table, htable, rows,
        hrows, updates, hupdates, rfl⟩
      rw [herror] at hok
      cases hok
  · intro hrefused
    cases hresult : createBatch type (first :: rest) s updateColumns with
    | error error => exact ⟨error, rfl⟩
    | ok result =>
      obtain ⟨schema, hschema, record, hrecord, table, htable, rows, hrows, updates, hupdates, -⟩ :=
        createBatch_cons_eq_ok.1 hresult
      obtain ⟨names, hb⟩ := RecordType.entitySchema_built hschema
      rcases hrefused with ⟨error, herror⟩ | ⟨schema', hschema', name, hname, hnone⟩
      · have hok := createBatch_cons_eq_ok.2 ⟨schema, hschema, record, hrecord, table, htable, rows,
          hrows, [], List.mapM_nil, rfl⟩
        rw [herror] at hok
        cases hok
      · obtain rfl := ok_unique hschema hschema'
        obtain ⟨plan, hplan, hof⟩ := hb.exists_updates_iff.1 ⟨updates, hupdates⟩ name hname
        exact absurd hof (hnone plan hplan)

/-- Where an INSERT of several entities is built, the columns that rows that are there take over are
    those of the fields named for it, each a column of the entity. All of them are among the columns
    of the INSERT if and only if the id that the database makes is not named, or another column has
    its name. Naming fields makes the INSERT fail exactly if one of them is no column of the
    entity. -/
theorem reuses_inserted_iff {first : Datum} {rest : List Datum} {updateColumns : List String} :
    (∀ f, createBatch type (first :: rest) s updateColumns = .ok (some f) →
      ∃ schema table, ∃ reused : List (FieldPlan EntityRole), type.asEntity s = .ok schema ∧
        (∀ plan ∈ reused, plan ∈ schema.columns) ∧ reused.map (·.name) = updateColumns ∧
        f.text = (insertParts table schema.batchColumns (rest.length + 1)
          (onDuplicate (reused.map fun plan => takeNew plan.column))).text ∧
        ((∀ plan ∈ reused, plan.column ∈ schema.batchColumns.map (·.column)) ↔
          ∀ id, schema.id = some id → id.generated = true → id.name ∈ updateColumns →
            id.column ∈ schema.batchColumns.map (·.column))) ∧
    ((∃ error, createBatch type (first :: rest) s updateColumns = .error error) ↔
      (∃ error, createBatch type (first :: rest) s [] = .error error) ∨
        ∃ schema, type.asEntity s = .ok schema ∧
          ∃ name ∈ updateColumns, ∀ plan ∈ schema.columns, plan.name ≠ name) := by
  refine ⟨fun f h => ?_, createBatch_refused_iff⟩
  obtain ⟨-, schema, records, table, updates, hschema, hrecords, hupdates, hinserts⟩ :=
    createBatch_inserts h
  obtain ⟨reused, hcolumns, rfl, rfl⟩ := EntitySchema.exists_reused hupdates
  obtain ⟨names, hb⟩ := RecordType.entitySchema_built hschema
  have hcount : records.length = rest.length + 1 := length_of_mapM hrecords
  refine ⟨schema, table, reused, hschema, hcolumns, rfl, hcount ▸ hinserts.text_eq, ?_⟩
  have hidColumn : ∀ plan ∈ reused, ∀ id, schema.id = some id → plan.name = id.name →
      plan.column = id.column := by
    intro plan hplan id hid hname
    exact hb.column_of_id (hcolumns plan hplan) hid hname
  constructor
  · intro hall id hid _ hnamed
    obtain ⟨plan, hplan, hname⟩ := List.mem_map.1 hnamed
    rw [← hidColumn plan hplan id hid hname]
    exact hall plan hplan
  · intro hid plan hplan
    -- a reused column that is not inserted itself can only be that of the id
    by_cases hinserted : plan ∈ schema.batchColumns
    · exact List.mem_map.2 ⟨plan, hinserted, rfl⟩
    · obtain ⟨id, hsome, hgenerated, hname⟩ :=
        EntitySchema.exists_id_of_not_mem_batchColumns (hcolumns plan hplan) hinserted
      rw [hidColumn plan hplan id hsome hname]
      exact hid id hsome hgenerated (List.mem_map.2 ⟨plan, hplan, hname⟩)

set_option maxRecDepth 20000 in
theorem reuses_inserted_ofTicket :
    ∃ f, createBatch ticket [ofTicket "a" "Open"] .default ["title"] = .ok (some f) ∧
      ∃ schema, ∃ reused : List (FieldPlan EntityRole), ticket.asEntity .default = .ok schema ∧
        reused.map (·.name) = ["title"] ∧
        ∀ plan ∈ reused, plan.column ∈ schema.batchColumns.map (·.column) := by
  have hbatch : createBatch ticket [ofTicket "a" "Open"] .default ["title"] =
      .ok (some ⟨"INSERT INTO t_ticket (title, state) VALUES (?, ?)" ++
        " ON DUPLICATE KEY UPDATE title = VALUES (title)", [.text "a", .text "Open"]⟩) := by cbv
  obtain ⟨schema, table, reused, hschema, -, hnames, -, hiff⟩ := reuses_inserted_iff.1 _ hbatch
  have hid : schema.id = some ⟨"id", "id", true⟩ := by
    have hticket : (ticket.asEntity .default).map (·.id) = .ok (some ⟨"id", "id", true⟩) := by cbv
    obtain ⟨schema', hschema', hid⟩ := map_eq_ok.1 hticket
    exact ok_unique hschema hschema' ▸ hid
  refine ⟨_, hbatch, schema, reused, hschema, hnames, hiff.2 ?_⟩
  intro id hsome _ hnamed
  obtain rfl := Option.some.inj (hid.symm.trans hsome)
  exact absurd hnamed (by decide)

set_option maxRecDepth 20000 in
/-- The id is not inserted, but rows that are there take it over. -/
theorem reuses_generated_id :
    createBatch ticket [ofTicket "a" "Open"] .default ["id"] =
        .ok (some ⟨"INSERT INTO t_ticket (title, state) VALUES (?, ?)" ++
          " ON DUPLICATE KEY UPDATE id = VALUES (id)", [.text "a", .text "Open"]⟩) ∧
      (ticket.asEntity .default).map (fun schema => schema.batchColumns.map (·.column)) =
        .ok ["title", "state"] := by
  constructor <;> cbv

end Entity

end CriteriaSql
