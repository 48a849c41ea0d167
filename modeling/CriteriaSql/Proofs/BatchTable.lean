/-
  The table of an INSERT. An entity by itself goes into the table that its own fields name. An
  INSERT of several has one table, which the first entity names: each of them goes into its own
  table exactly where they all name the same one.
-/
import CriteriaSql.Proofs.Assembly
import Mathlib

namespace CriteriaSql

namespace Entity

variable {s : Settings} {f : Statement}

/-- The table that the fields of an entity name. -/
def tableName (e : Entity) (s : Settings) : Except Error String := do
  let schema ← e.type.asEntity s
  let record ← e.record
  schema.table.render record

theorem tableName_eq_ok {e : Entity} {table : String} :
    e.tableName s = .ok table ↔
      ∃ schema, e.type.asEntity s = .ok schema ∧ ∃ record, e.record = .ok record ∧
        schema.table.render record = .ok table := by
  simp only [tableName, bind_eq_ok]

/-- An entity by itself goes into the table that it names. -/
theorem create_into_own_table {e : Entity} (h : e.create s = .ok f) :
    ∃ table, e.tableName s = .ok table ∧ ∃ plans args, f = insertInto table plans [args] := by
  obtain ⟨schema, hschema, record, hrecord, args, -, table, htable, rfl⟩ := create_eq_ok.1 h
  exact ⟨table, tableName_eq_ok.2 ⟨schema, hschema, record, hrecord, htable⟩, _, args, rfl⟩

/-! ## One table for a batch -/

variable {type : RecordType} {values : List Datum} {updateColumns : List String}

/-- INSERT of several entities of a type into a given table. -/
def batchInto (type : RecordType) (values : List Datum) (s : Settings)
    (updateColumns : List String) (table : String) : Except Error Statement := do
  let schema ← type.asEntity s
  let rows ← values.mapM (type.batchRow schema)
  let updates ← updateColumns.mapM schema.reuse
  pure (insertInto table schema.batchColumns rows ++ onDuplicate updates)

theorem batchInto_eq_ok {table : String} :
    batchInto type values s updateColumns table = .ok f ↔
      ∃ schema, type.asEntity s = .ok schema ∧
        ∃ rows, values.mapM (type.batchRow schema) = .ok rows ∧
        ∃ updates, updateColumns.mapM schema.reuse = .ok updates ∧
        insertInto table schema.batchColumns rows ++ onDuplicate updates = f := by
  simp only [batchInto, bind_eq_ok, pure_eq_ok]

/-- The batch is built from the table of the first entity. No other entity is asked for its own. -/
theorem createBatch_cons_iff {first : Datum} {rest : List Datum} :
    createBatch type (first :: rest) s updateColumns = .ok (some f) ↔
      ∃ table, (Entity.mk type first).tableName s = .ok table ∧
        batchInto type (first :: rest) s updateColumns table = .ok f := by
  rw [createBatch_cons_eq_ok]
  constructor
  · intro ⟨schema, hschema, record, hrecord, table, htable, rows, hrows, updates, hupdates, hf⟩
    refine ⟨table, tableName_eq_ok.2 ⟨schema, hschema, record, hrecord, htable⟩, ?_⟩
    exact batchInto_eq_ok.2 ⟨schema, hschema, rows, hrows, updates, hupdates, Option.some.inj hf⟩
  · intro ⟨table, hname, hbatch⟩
    obtain ⟨schema, hschema, record, hrecord, htable⟩ := tableName_eq_ok.1 hname
    obtain ⟨schema', hschema', rows, hrows, updates, hupdates, hf⟩ := batchInto_eq_ok.1 hbatch
    obtain rfl := ok_unique hschema hschema'
    exact ⟨schema, hschema, record, hrecord, table, htable, rows, hrows, updates, hupdates,
      congrArg some hf⟩

/-- A batch says into which table it goes. -/
theorem table_unique {table table' : String}
    (h : batchInto type values s updateColumns table = .ok f)
    (h' : batchInto type values s updateColumns table' = .ok f) : table = table' := by
  obtain ⟨schema, hschema, rows, hrows, updates, hupdates, hf⟩ := batchInto_eq_ok.1 h
  obtain ⟨schema', hschema', rows', hrows', updates', hupdates', hf'⟩ := batchInto_eq_ok.1 h'
  obtain rfl := ok_unique hschema hschema'
  obtain rfl := ok_unique hrows hrows'
  obtain rfl := ok_unique hupdates hupdates'
  have htext := congrArg (fun f => f.text.toList) (hf.trans hf'.symm)
  simp only [insertInto, Fragment.text_append, Fragment.text_ofText, String.toList_append,
    List.append_cancel_right_eq, List.append_cancel_left_eq] at htext
  exact String.toList_inj.1 htext

/-- Each entity of a batch goes into the table that its own fields name if and only if all of them
    name the table of the first one. -/
theorem createBatch_own_tables_iff {first : Datum} {rest : List Datum}
    (h : createBatch type (first :: rest) s updateColumns = .ok (some f)) :
    (∀ value ∈ first :: rest, ∃ table, (Entity.mk type value).tableName s = .ok table ∧
        batchInto type (first :: rest) s updateColumns table = .ok f) ↔
      ∀ value ∈ rest, (Entity.mk type value).tableName s = (Entity.mk type first).tableName s := by
  obtain ⟨table, hfirst, hbatch⟩ := createBatch_cons_iff.1 h
  rw [hfirst]
  constructor
  · intro hown value hm
    obtain ⟨own, hname, hinto⟩ := hown value (List.mem_cons_of_mem _ hm)
    rw [hname, table_unique hinto hbatch]
  · intro hsame value hm
    refine ⟨table, ?_, hbatch⟩
    rcases List.mem_cons.1 hm with hv | hm
    · rw [hv]
      exact hfirst
    · exact hsame value hm

/-- Users, with a table for each tenant. -/
def tenantUser : RecordType :=
  ⟨"UserEntity", some ["tenant", "name"], "user$\x7btenant\x7d", none, none, []⟩

/-- A user of a tenant. -/
def ofTenant (tenant name : String) : Datum :=
  .record [("tenant", .text tenant), ("name", .text name)]

set_option maxRecDepth 20000 in
theorem own_tables_ofTenant :
    ∃ f, createBatch tenantUser [ofTenant "a" "x", ofTenant "a" "y"] .default [] = .ok (some f) ∧
      (∀ value ∈ [ofTenant "a" "y"], (Entity.mk tenantUser value).tableName .default =
        (Entity.mk tenantUser (ofTenant "a" "x")).tableName .default) ∧
      ∀ value ∈ [ofTenant "a" "x", ofTenant "a" "y"], ∃ table,
        (Entity.mk tenantUser value).tableName .default = .ok table ∧
        batchInto tenantUser [ofTenant "a" "x", ofTenant "a" "y"] .default [] table = .ok f := by
  have hbatch : createBatch tenantUser [ofTenant "a" "x", ofTenant "a" "y"] .default [] =
      .ok (some ⟨"INSERT INTO usera (name) VALUES (?), (?)", [.text "x", .text "y"]⟩) := by cbv
  have hname (name : String) :
      (Entity.mk tenantUser (ofTenant "a" name)).tableName .default = .ok "usera" := by cbv
  have hsame : ∀ value ∈ [ofTenant "a" "y"], (Entity.mk tenantUser value).tableName .default =
      (Entity.mk tenantUser (ofTenant "a" "x")).tableName .default := by
    intro value hvalue
    rw [List.mem_singleton.1 hvalue, hname, hname]
  exact ⟨_, hbatch, hsame, (createBatch_own_tables_iff hbatch).2 hsame⟩

set_option maxRecDepth 20000 in
/-- A user of the tenant `b` goes into the table of the tenant `a`. -/
theorem createBatch_mixes_tenants :
    createBatch tenantUser [ofTenant "a" "x", ofTenant "b" "y"] .default [] =
        .ok (some ⟨"INSERT INTO usera (name) VALUES (?), (?)", [.text "x", .text "y"]⟩) ∧
      (Entity.mk tenantUser (ofTenant "b" "y")).tableName .default = .ok "userb" := by
  constructor <;> cbv

end Entity

end CriteriaSql
