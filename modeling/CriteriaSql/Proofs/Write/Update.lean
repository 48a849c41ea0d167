/-
  What an UPDATE by id says: which columns are given the values of their fields, and by which column
  the row is found. A patch passes over the columns that have no value. Such a column can always be
  bound, so a patch is built exactly where the UPDATE of all columns is built and one of them has a
  value, and it is that UPDATE less the columns without a value (`patchById_restricts_update`).
-/
import CriteriaSql.Proofs.Assembly
import CriteriaSql.Proofs.Schemas
import Mathlib

namespace CriteriaSql

variable {s : Settings} {f : Statement} {schema : EntitySchema} {record : Record}
  {presentOnly : Bool}

/-! ## Columns with their arguments -/

/-- The column of a field with an argument, which it is given or compared with. -/
structure BoundColumn where
  field : String
  column : String
  arg : Scalar
  deriving DecidableEq, Repr

/-- The column and its argument as they are written. -/
def BoundColumn.sql (b : BoundColumn) : Fragment := columnEquals b.column b.arg

namespace Record

/-- Whether the field has a value. -/
def has (record : Record) (field : String) : Bool := !(record.get field).isAbsent

/-- The column of a field with its value. -/
def bindColumn (record : Record) (plan : FieldPlan EntityRole) : Except Error BoundColumn :=
  ((record.get plan.name).bind plan.name plan.encoding).map fun arg =>
    ⟨plan.name, plan.column, arg⟩

theorem bindColumn_spec {plan : FieldPlan EntityRole} {b : BoundColumn}
    (h : record.bindColumn plan = .ok b) :
    b.field = plan.name ∧ b.column = plan.column ∧
      (record.get plan.name).bind plan.name plan.encoding = .ok b.arg := by
  obtain ⟨arg, harg, rfl⟩ := map_eq_ok.1 h
  exact ⟨rfl, rfl, harg⟩

/-- A column without a value is bound to null. -/
theorem exists_bindColumn_of_absent {plan : FieldPlan EntityRole}
    (h : record.has plan.name = false) : ∃ b, record.bindColumn plan = .ok b := by
  unfold has at h
  unfold bindColumn
  cases hvalue : record.get plan.name with
  | absent => exact ⟨_, rfl⟩
  | _ => simp [hvalue, FieldValue.isAbsent] at h

end Record

/-! ## Assignments -/

namespace EntitySchema

/-- The columns other than the id. -/
def dataColumns (schema : EntitySchema) : List (FieldPlan EntityRole) :=
  schema.columns.filter fun plan => !schema.isId plan.name

/-- The columns that an UPDATE assigns: all but the id, or those of them that have a value. -/
def assignedColumns (schema : EntitySchema) (record : Record) (presentOnly : Bool) :
    List (FieldPlan EntityRole) :=
  schema.dataColumns.filter fun plan => !presentOnly || record.has plan.name

theorem assignedColumns_all (schema : EntitySchema) (record : Record) :
    schema.assignedColumns record false = schema.dataColumns :=
  List.filter_true _

theorem assignedColumns_eq (schema : EntitySchema) (record : Record) (presentOnly : Bool) :
    (schema.columns.filter fun plan =>
        !schema.isId plan.name && !(presentOnly && (record.get plan.name).isAbsent)) =
      schema.assignedColumns record presentOnly := by
  unfold assignedColumns dataColumns
  rw [List.filter_filter]
  refine List.filter_congr fun plan _ => ?_
  rw [Record.has, Bool.not_and, Bool.and_comm]

theorem assignments_congr {presentOnly' : Bool}
    (h : schema.assignedColumns record presentOnly = schema.assignedColumns record presentOnly') :
    schema.assignments record presentOnly = schema.assignments record presentOnly' := by
  unfold assignments
  rw [assignedColumns_eq, assignedColumns_eq, h]

/-- The assignments are those of the assigned columns, of which there is one. -/
theorem assignments_eq_ok {sets : List Fragment} :
    schema.assignments record presentOnly = .ok sets ↔
      ∃ bound, (schema.assignedColumns record presentOnly).mapM record.bindColumn = .ok bound ∧
        bound ≠ [] ∧ bound.map BoundColumn.sql = sets := by
  have hbind : (fun plan : FieldPlan EntityRole =>
      ((record.get plan.name).bind plan.name plan.encoding).map (columnEquals plan.column)) =
      fun plan => (record.bindColumn plan).map BoundColumn.sql := by
    funext plan
    unfold Record.bindColumn
    cases (record.get plan.name).bind plan.name plan.encoding <;> rfl
  unfold assignments
  dsimp only
  rw [assignedColumns_eq, hbind, mapM_map, bind_eq_ok]
  constructor
  · rintro ⟨sets', hsets, hif⟩
    obtain ⟨bound, hbound, rfl⟩ := map_eq_ok.1 hsets
    split at hif
    · cases hif
    next hsome =>
      rw [pure_eq_ok] at hif
      refine ⟨bound, hbound, ?_, hif⟩
      rintro rfl
      exact hsome rfl
  · rintro ⟨bound, hbound, hsome, rfl⟩
    refine ⟨_, map_eq_ok.2 ⟨bound, hbound, rfl⟩, ?_⟩
    rw [if_neg]
    · rfl
    · rw [List.isEmpty_iff, List.map_eq_nil_iff]
      exact hsome

/-- The id of a record is an argument if there is an id and it has a value, bound by number. -/
theorem idArgument_eq_ok {arg : Scalar} :
    schema.idArgument record = .ok arg ↔
      ∃ id, schema.id = some id ∧ record.has id.name = true ∧
        (record.get id.name).bind id.name .ordinal = .ok arg := by
  unfold idArgument
  cases hid : schema.id with
  | none => simp
  | some id =>
    cases habsent : (record.get id.name).isAbsent with
    | true => simp [habsent, Record.has]
    | false => simp [habsent, Record.has]

end EntitySchema

/-! ## The statement -/

/-- The parts of an UPDATE by id. -/
structure UpdateParts where
  table : String
  sets : List BoundColumn
  keys : List BoundColumn

namespace UpdateParts

/-- The parts put together. -/
def sql (parts : UpdateParts) : Fragment :=
  updateOf parts.table (parts.sets.map BoundColumn.sql) (parts.keys.map BoundColumn.sql)

/-- The same UPDATE of the columns alone whose fields have a value. -/
def restrictTo (parts : UpdateParts) (record : Record) : UpdateParts :=
  { parts with sets := parts.sets.filter fun b => record.has b.field }

/-- The parts of an UPDATE of a record. The assigned columns have the values of their fields, there
    is one at least, and the row is found by the id, bound by number. -/
structure Of (parts : UpdateParts) (schema : EntitySchema) (record : Record) (presentOnly : Bool) :
    Prop where
  table_eq : schema.table.render record = .ok parts.table
  sets_eq : (schema.assignedColumns record presentOnly).mapM record.bindColumn = .ok parts.sets
  sets_ne : parts.sets ≠ []
  keys_eq : ∃ id arg, schema.id = some id ∧ record.has id.name = true ∧
    (record.get id.name).bind id.name .ordinal = .ok arg ∧
    parts.keys = [⟨id.name, id.column, arg⟩]

variable {parts : UpdateParts}

/-- An UPDATE of all columns, one of which has a value, restricts to one of those with a value. -/
theorem Of.restrictTo (h : parts.Of schema record false)
    (hdata : ∃ plan ∈ schema.dataColumns, record.has plan.name = true) :
    (parts.restrictTo record).Of schema record true := by
  have hall := h.sets_eq
  rw [EntitySchema.assignedColumns_all] at hall
  refine ⟨h.table_eq, ?_, ?_, h.keys_eq⟩
  · refine mapM_filter hall fun plan b hb => ?_
    rw [(Record.bindColumn_spec hb).1]
    rfl
  · obtain ⟨plan, hplan, hhas⟩ := hdata
    obtain ⟨b, hb, hof⟩ := exists_mem_of_mapM hall hplan
    have hkept : b ∈ (parts.restrictTo record).sets :=
      List.mem_filter.2 ⟨hb, by rw [(Record.bindColumn_spec hof).1, hhas]⟩
    exact List.ne_nil_of_mem hkept

/-- An UPDATE of the columns with a value extends to one of all columns. -/
theorem Of.extend (h : parts.Of schema record true) :
    ∃ whole : UpdateParts, whole.Of schema record false ∧ parts = whole.restrictTo record := by
  have hall : ∃ sets, schema.dataColumns.mapM record.bindColumn = .ok sets := by
    refine exists_mapM_iff.2 fun plan hplan => ?_
    -- what the patch passes over has no value and is bound to null, the rest it binds itself
    cases hhas : record.has plan.name with
    | false => exact Record.exists_bindColumn_of_absent hhas
    | true =>
      refine exists_mapM_iff.1 ⟨parts.sets, h.sets_eq⟩ plan (List.mem_filter.2 ⟨hplan, ?_⟩)
      rw [hhas, Bool.or_true]
  obtain ⟨sets, hsets⟩ := hall
  have hkept : (schema.assignedColumns record true).mapM record.bindColumn =
      .ok (sets.filter fun b => record.has b.field) :=
    mapM_filter hsets fun plan b hb => by rw [(Record.bindColumn_spec hb).1]; rfl
  have hsame := ok_unique h.sets_eq hkept
  refine ⟨{ parts with sets }, ⟨h.table_eq, ?_, ?_, h.keys_eq⟩, ?_⟩
  · rw [EntitySchema.assignedColumns_all]
    exact hsets
  · rintro rfl
    exact h.sets_ne hsame
  · rw [UpdateParts.restrictTo, ← hsame]

/-- Some column has a value where an UPDATE of the columns with a value is built. -/
theorem Of.exists_data (h : parts.Of schema record true) :
    ∃ plan ∈ schema.dataColumns, record.has plan.name = true := by
  obtain ⟨b, hb⟩ := List.exists_mem_of_ne_nil _ h.sets_ne
  obtain ⟨plan, hplan, -⟩ := exists_of_mem_mapM h.sets_eq hb
  obtain ⟨hdata, hhas⟩ := List.mem_filter.1 hplan
  exact ⟨plan, hdata, by simpa using hhas⟩

end UpdateParts

namespace Entity

variable {e : Entity}

/-- An UPDATE by id is built of the parts of the entity's record. -/
theorem updateById_eq_sql :
    e.updateById s presentOnly = .ok f ↔
      ∃ schema record parts, e.type.asEntity s = .ok schema ∧ e.record = .ok record ∧
        UpdateParts.Of parts schema record presentOnly ∧ parts.sql = f := by
  rw [updateById_eq_ok]
  constructor
  · rintro ⟨schema, hschema, record, hrecord, sets, hsets, table, htable, arg, harg, rfl⟩
    obtain ⟨bound, hbound, hsome, rfl⟩ := EntitySchema.assignments_eq_ok.1 hsets
    obtain ⟨id, hid, hhas, hbind⟩ := EntitySchema.idArgument_eq_ok.1 harg
    refine ⟨schema, record, ⟨table, bound, [⟨id.name, id.column, arg⟩]⟩, hschema, hrecord,
      ⟨htable, hbound, hsome, id, arg, hid, hhas, hbind, rfl⟩, ?_⟩
    rw [EntitySchema.idColumn, hid]
    rfl
  · rintro ⟨schema, record, parts, hschema, hrecord, ⟨htable, hsets, hsome, hkeys⟩, rfl⟩
    obtain ⟨id, arg, hid, hhas, hbind, hkeys⟩ := hkeys
    refine ⟨schema, hschema, record, hrecord, _,
      EntitySchema.assignments_eq_ok.2 ⟨parts.sets, hsets, hsome, rfl⟩, parts.table, htable, arg,
      EntitySchema.idArgument_eq_ok.2 ⟨id, hid, hhas, hbind⟩, ?_⟩
    rw [UpdateParts.sql, hkeys, EntitySchema.idColumn, hid]
    rfl

/-- A column other than the id has a value. -/
def HasData (e : Entity) (s : Settings) : Prop :=
  ∃ schema record, e.type.asEntity s = .ok schema ∧ e.record = .ok record ∧
    ∃ plan ∈ schema.dataColumns, record.has plan.name = true

/-- All columns other than the id have a value. -/
def IsComplete (e : Entity) (s : Settings) : Prop :=
  ∀ schema record, e.type.asEntity s = .ok schema → e.record = .ok record →
    ∀ plan ∈ schema.dataColumns, record.has plan.name = true

/-- A patch of a complete entity assigns all columns. -/
theorem patchById_of_isComplete (h : e.IsComplete s) : e.patchById s = e.update s := by
  unfold patchById update updateById
  -- a descriptor or a record that fails makes both fail alike
  cases hschema : e.type.asEntity s with
  | error error => rfl
  | ok schema =>
    cases hrecord : e.record with
    | error error => rfl
    | ok record =>
      have hcolumns : schema.assignedColumns record true =
          schema.assignedColumns record false := by
        refine List.filter_congr fun plan hplan => ?_
        rw [h schema record hschema hrecord plan hplan]
        rfl
      change (schema.assignments record true >>= _) = (schema.assignments record false >>= _)
      rw [EntitySchema.assignments_congr hcolumns]

/-- A patch by id is built if and only if the UPDATE of all columns is built and a column other than
    the id has a value. It is that UPDATE with the assignments alone, in the same order, of the
    columns that have a value: the table, the column of the id and its argument are the same. Where
    all columns other than the id have a value, there is no difference. -/
theorem patchById_restricts_update (e : Entity) (s : Settings) :
    ((∃ patched, e.patchById s = .ok patched) ↔
      (∃ updated, e.update s = .ok updated) ∧ e.HasData s) ∧
    (∀ patched updated, e.patchById s = .ok patched → e.update s = .ok updated →
      ∃ schema record parts, e.type.asEntity s = .ok schema ∧ e.record = .ok record ∧
        UpdateParts.Of parts schema record false ∧ updated = parts.sql ∧
        patched = (parts.restrictTo record).sql) ∧
    (e.IsComplete s → e.patchById s = e.update s) := by
  refine ⟨⟨?_, ?_⟩, ?_, patchById_of_isComplete⟩
  · rintro ⟨patched, hpatched⟩
    obtain ⟨schema, record, parts, hschema, hrecord, hparts, -⟩ := updateById_eq_sql.1 hpatched
    obtain ⟨whole, hwhole, -⟩ := hparts.extend
    refine ⟨⟨whole.sql, ?_⟩, schema, record, hschema, hrecord, hparts.exists_data⟩
    exact updateById_eq_sql.2 ⟨schema, record, whole, hschema, hrecord, hwhole, rfl⟩
  · rintro ⟨⟨updated, hupdated⟩, schema, record, hschema, hrecord, hdata⟩
    obtain ⟨schema', record', parts, hschema', hrecord', hparts, -⟩ := updateById_eq_sql.1 hupdated
    obtain rfl := ok_unique hschema hschema'
    obtain rfl := ok_unique hrecord hrecord'
    exact ⟨_, updateById_eq_sql.2
      ⟨schema, record, _, hschema, hrecord, hparts.restrictTo hdata, rfl⟩⟩
  · intro patched updated hpatched hupdated
    obtain ⟨schema, record, parts, hschema, hrecord, hparts, rfl⟩ := updateById_eq_sql.1 hpatched
    obtain ⟨whole, hwhole, rfl⟩ := hparts.extend
    have hall := updateById_eq_sql.2 ⟨schema, record, whole, hschema, hrecord, hwhole, rfl⟩
    exact ⟨schema, record, whole, hschema, hrecord, hwhole, ok_unique hupdated hall, rfl⟩

/-- Notes with a title and a text. -/
def note : RecordType :=
  ⟨"NoteEntity", some ["id", "title", "body"], "t_note", none, none, [("id", .id)]⟩

/-- A note without a text. -/
def ofNote : Entity :=
  ⟨note, .record [("id", .int ⟨true, .w64⟩ 7), ("title", .text "a"), ("body", .missing)]⟩

set_option maxRecDepth 20000 in
theorem hasData_ofNote : ofNote.HasData .default := by
  refine ⟨⟨"NoteEntity", ⟨"t_note", [.literal "t_note".toList]⟩,
      [⟨"id", "id", .column, .ordinal⟩, ⟨"title", "title", .column, .ordinal⟩,
        ⟨"body", "body", .column, .ordinal⟩], some ⟨"id", "id", false⟩⟩,
    ⟨"NoteEntity", [("id", .scalar (.int 7)), ("title", .scalar (.text "a")), ("body", .absent)]⟩,
    by cbv, by cbv, ⟨"title", "title", .column, .ordinal⟩, by decide, by cbv⟩

set_option maxRecDepth 20000 in
theorem patchById_restricts_ofNote :
    ofNote.update .default =
        .ok ⟨"UPDATE t_note SET title = ?, body = ? WHERE id = ?", [.text "a", .null, .int 7]⟩ ∧
      ∃ patched, ofNote.patchById .default = .ok patched := by
  have hupdate : ofNote.update .default =
      .ok ⟨"UPDATE t_note SET title = ?, body = ? WHERE id = ?", [.text "a", .null, .int 7]⟩ := by
    cbv
  exact ⟨hupdate, (patchById_restricts_update ofNote .default).1.2 ⟨⟨_, hupdate⟩, hasData_ofNote⟩⟩

end Entity

end CriteriaSql
