/-
  One INSERT of several entities and an INSERT of each. The first always leaves out an id that the
  database makes, the others leave it out where it has no value. Where every entity does without
  such an id and all of them name one table, the INSERT of several is that of any one of them with
  its row once for each entity, and its arguments are theirs, one entity after the other
  (`createBatch_joins_creates`).
-/
import CriteriaSql.Proofs.BatchTable
import CriteriaSql.Proofs.Write.Insertion
import Mathlib

namespace CriteriaSql

variable {s : Settings} {type : RecordType} {schema : EntitySchema} {record : Record}

/-! ## Columns -/

namespace EntitySchema

/-- The id is not made by the database, or the record has no value for it. -/
def LeavesIdOut (schema : EntitySchema) (record : Record) : Prop :=
  ∀ id, schema.id = some id → id.generated = true → (record.get id.name).isAbsent = true

/-- Without a value for the id that the database makes, an entity by itself has the columns that it
    has among others. -/
theorem insertColumns_of_leavesIdOut (h : schema.LeavesIdOut record) :
    schema.insertColumns record = schema.batchColumns := by
  refine List.filter_congr fun plan _ => ?_
  cases hgenerated : schema.isGeneratedId plan.name with
  | false => rfl
  | true =>
    obtain ⟨id, hid, hmade, hname⟩ := isGeneratedId_iff.1 hgenerated
    have habsent := h id hid hmade
    rw [hname] at habsent
    rw [habsent, Bool.true_and]

end EntitySchema

/-! ## Rows -/

/-- The width of a row is the number of columns. -/
theorem RecordType.length_of_batchRow {value : Datum} {row : List Scalar}
    (h : type.batchRow schema value = .ok row) : row.length = schema.batchColumns.length := by
  obtain ⟨record, -, hrow⟩ := bind_eq_ok.1 h
  exact length_of_mapM hrow

namespace Entity

/-- The entity does without an id that the database makes. -/
def LeavesIdOut (e : Entity) (s : Settings) : Prop :=
  ∀ schema record, e.type.asEntity s = .ok schema → e.record = .ok record →
    schema.LeavesIdOut record

variable {table : String}

/-- An INSERT of one entity is the INSERT of its row among others, or fails as the row does. -/
theorem create_eq_map_batchRow {value : Datum} (hschema : type.asEntity s = .ok schema)
    (htable : (Entity.mk type value).tableName s = .ok table)
    (hid : (Entity.mk type value).LeavesIdOut s) :
    (Entity.mk type value).create s =
      (type.batchRow schema value).map fun row => insertInto table schema.batchColumns [row] := by
  obtain ⟨schema', hschema', record, hrecord, hrender⟩ := tableName_eq_ok.1 htable
  obtain rfl := ok_unique hschema hschema'
  have hcolumns := EntitySchema.insertColumns_of_leavesIdOut (hid schema record hschema hrecord)
  have hread : Record.read type.name value = .ok record := hrecord
  have hbatch : type.batchRow schema value = record.bindAll schema.batchColumns := by
    rw [RecordType.batchRow, hread]
    rfl
  rw [create, hschema, hrecord, hbatch]
  -- the table can be written, so only the row may still fail
  change (record.bindAll (schema.insertColumns record) >>= _) = _
  rw [hcolumns]
  cases record.bindAll schema.batchColumns with
  | error error => rfl
  | ok row =>
    change (schema.table.render record >>= _) = _
    rw [hrender]
    rfl

/-- The INSERTs of entities by themselves are those of the rows that they have among others. -/
theorem exists_rows_of_creates {values : List Datum} {created : List Statement}
    (hcreated : values.mapM (fun value => (Entity.mk type value).create s) = .ok created)
    (hschema : type.asEntity s = .ok schema)
    (htable : ∀ value ∈ values, (Entity.mk type value).tableName s = .ok table)
    (hid : ∀ value ∈ values, (Entity.mk type value).LeavesIdOut s) :
    ∃ rows, values.mapM (type.batchRow schema) = .ok rows ∧
      rows.map (fun row => insertInto table schema.batchColumns [row]) = created := by
  rw [mapM_congr fun value hm => create_eq_map_batchRow hschema (htable value hm) (hid value hm),
    mapM_map] at hcreated
  exact map_eq_ok.1 hcreated

/-- The arguments of an INSERT of rows are those of the INSERTs of each row. -/
theorem args_insertInto_rows (columns : List (FieldPlan EntityRole)) (rows : List (List Scalar)) :
    (insertInto table columns rows).args =
      (rows.map fun row => insertInto table columns [row]).flatMap Fragment.args := by
  have hrow : ∀ row ∈ rows, (insertInto table columns [row]).args = id row := by
    intro row _
    rw [args_insertInto, List.flatten_singleton]
    rfl
  rw [args_insertInto, List.flatMap_map, List.flatMap_congr hrow, List.flatMap_id]

/-- Where the INSERT of each of several entities is built, all of them go into one table, and none
    has a value for an id that the database makes, the INSERT of them all is built. Its text is that
    of the INSERT of any one of them with the row of values once for each entity, and its arguments
    are those of the INSERTs of each, in their order. -/
theorem createBatch_joins_creates {values : List Datum} {created : List Statement}
    (hsome : values ≠ [])
    (hcreated : values.mapM (fun value => (Entity.mk type value).create s) = .ok created)
    (htable : ∀ value ∈ values, (Entity.mk type value).tableName s = .ok table)
    (hid : ∀ value ∈ values, (Entity.mk type value).LeavesIdOut s) :
    ∃ schema f parts row, type.asEntity s = .ok schema ∧
      createBatch type values s [] = .ok (some f) ∧
      parts = InsertParts.mk table (schema.batchColumns.map (·.column)) [row] "" ∧
      row = Fragment.placeholderList schema.batchColumns.length ∧
      (∀ single ∈ created, single.text = parts.text) ∧
      f.text = { parts with rows := List.replicate values.length row }.text ∧
      f.args = created.flatMap Fragment.args := by
  obtain ⟨first, rest, rfl⟩ := List.exists_cons_of_ne_nil hsome
  have hfirst := htable first List.mem_cons_self
  obtain ⟨schema, hschema, record, hrecord, hrender⟩ := tableName_eq_ok.1 hfirst
  obtain ⟨rows, hrows, rfl⟩ := exists_rows_of_creates hcreated hschema htable hid
  have hwidth : ∀ row ∈ rows, row.length = schema.batchColumns.length := by
    intro row hm
    obtain ⟨value, -, hrow⟩ := exists_of_mem_mapM hrows hm
    exact RecordType.length_of_batchRow hrow
  have hbatch : createBatch type (first :: rest) s [] =
      .ok (some (insertInto table schema.batchColumns rows ++ Fragment.ofText "")) :=
    createBatch_cons_eq_ok.2
      ⟨schema, hschema, record, hrecord, table, hrender, rows, hrows, [], rfl, rfl⟩
  refine ⟨schema, _, _, _, hschema, hbatch, rfl, rfl, ?_, ?_, ?_⟩
  · intro single hm
    obtain ⟨row, hrow, rfl⟩ := List.mem_map.1 hm
    have htext : (insertInto table schema.batchColumns [row] ++ Fragment.ofText "").text = _ :=
      text_insertInto_eq (List.forall_mem_singleton.2 (hwidth row hrow))
    rwa [Fragment.append_ofText_empty] at htext
  · rw [text_insertInto_eq hwidth, length_of_mapM hrows]
    rfl
  · rw [Fragment.append_ofText_empty, args_insertInto_rows]

set_option maxRecDepth 20000 in
theorem leavesIdOut_ofTicket (title state : String) :
    (Entity.mk ticket (ofTicket title state)).LeavesIdOut .default := by
  have hticket : (ticket.asEntity .default).map (·.id) = .ok (some ⟨"id", "id", true⟩) := by cbv
  have hread : (Record.read "TicketEntity" (ofTicket title state)).map (·.get "id") =
      .ok .absent := by rfl
  intro schema record hschema hrecord id hsome _
  obtain ⟨schema', hschema', hid⟩ := map_eq_ok.1 hticket
  obtain ⟨record', hrecord', habsent⟩ := map_eq_ok.1 hread
  rw [ok_unique hschema' hschema, hsome] at hid
  rw [Option.some.inj hid, ok_unique hrecord hrecord', habsent]
  rfl

set_option maxRecDepth 20000 in
theorem createBatch_joins_tickets :
    ∃ f, createBatch ticket [ofTicket "a" "Open", ofTicket "b" "Done"] .default [] =
        .ok (some f) ∧
      f.args = [.text "a", .text "Open", .text "b", .text "Done"] := by
  have hcreated : [ofTicket "a" "Open", ofTicket "b" "Done"].mapM
      (fun value => (Entity.mk ticket value).create .default) =
      .ok [⟨"INSERT INTO t_ticket (title, state) VALUES (?, ?)", [.text "a", .text "Open"]⟩,
        ⟨"INSERT INTO t_ticket (title, state) VALUES (?, ?)", [.text "b", .text "Done"]⟩] := by cbv
  have htable : ∀ value ∈ [ofTicket "a" "Open", ofTicket "b" "Done"],
      (Entity.mk ticket value).tableName .default = .ok "t_ticket" :=
    List.forall_mem_cons.2 ⟨by cbv, List.forall_mem_singleton.2 (by cbv)⟩
  have hid : ∀ value ∈ [ofTicket "a" "Open", ofTicket "b" "Done"],
      (Entity.mk ticket value).LeavesIdOut .default :=
    List.forall_mem_cons.2 ⟨leavesIdOut_ofTicket _ _,
      List.forall_mem_singleton.2 (leavesIdOut_ofTicket _ _)⟩
  obtain ⟨schema, f, parts, row, -, hbatch, -, -, -, -, hargs⟩ :=
    createBatch_joins_creates (List.cons_ne_nil _ _) hcreated htable hid
  exact ⟨f, hbatch, hargs⟩

end Entity

end CriteriaSql
