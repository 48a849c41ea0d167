/-
  What an INSERT says. Its text names columns and has a row of values for each entity, and its
  arguments are those of the rows, one row after the other. The list of no columns is empty, but the
  list of no placeholders holds `null`: rows have as many values as there are columns exactly where
  there is a column (`rows_fit_iff`).
-/
import CriteriaSql.Proofs.Assembly
import CriteriaSql.Proofs.Pieces
import CriteriaSql.Proofs.Schemas
import CriteriaSql.Proofs.Shape.Conditions
import Mathlib

namespace CriteriaSql

variable {s : Settings} {f : Statement} {type : RecordType}

/-! ## Lists in parentheses -/

/-- The number of items of a list in parentheses, where no item holds a comma. -/
def Text.listSize (text : String) : Nat := if text = "()" then 0 else countChar ',' text + 1

theorem Text.countChar_commas {items : List String} (h : ∀ item ∈ items, countChar ',' item = 0) :
    countChar ',' (", ".intercalate items) = items.length - 1 := by
  induction items with
  | nil => rfl
  | cons item items ih =>
    have hitem := h item List.mem_cons_self
    have htail := ih fun item hm => h item (List.mem_cons_of_mem _ hm)
    cases items with
    | nil => simpa using hitem
    | cons next items =>
      rw [String.intercalate_cons_of_ne_nil (List.cons_ne_nil _ _), countChar_append,
        countChar_append, hitem, htail, show countChar ',' ", " = 1 by decide]
      simp only [List.length_cons]
      omega

/-- A row has as many values as it has arguments; the row without arguments has one. -/
theorem Fragment.listSize_placeholderList (size : Nat) :
    Text.listSize (placeholderList size) = max size 1 := by
  unfold placeholderList
  split
  next hzero =>
    subst hzero
    decide
  next hpos =>
    have hcommas : Text.countChar ',' (", ".intercalate (List.replicate size "?")) = size - 1 := by
      rw [Text.countChar_commas, List.length_replicate]
      intro item hm
      rw [List.eq_of_mem_replicate hm]
      decide
    have hmark : '?' ∈ ("(" ++ ", ".intercalate (List.replicate size "?") ++ ")").toList := by
      obtain ⟨n, rfl⟩ := Nat.exists_eq_succ_of_ne_zero hpos
      cases n with
      | zero => decide
      | succ n =>
        rw [List.replicate_succ, String.intercalate_cons_of_ne_nil (by simp)]
        simp
    rw [Text.listSize, if_neg fun hempty => absurd (hempty ▸ hmark) (by decide),
      Text.countChar_append, Text.countChar_append, hcommas,
      show Text.countChar ',' "(" = 0 by decide, show Text.countChar ',' ")" = 0 by decide]
    omega

/-! ## Row by row -/

section RowByRow

variable {α : Type} {rows : List (List α)} {width : Nat}

theorem length_flatten_rows (h : ∀ row ∈ rows, row.length = width) :
    rows.flatten.length = rows.length * width := by
  rw [List.length_flatten, List.map_congr_left h, List.map_const', List.sum_replicate_nat]

/-- Where all rows are of one width, the place of a value is that of its row and its column. -/
theorem getElem?_flatten_rows (h : ∀ row ∈ rows, row.length = width) {r c : Nat} {row : List α}
    (hrow : rows[r]? = some row) (hc : c < width) : rows.flatten[r * width + c]? = row[c]? := by
  induction rows generalizing r with
  | nil => cases hrow
  | cons head rows ih =>
    have hhead : head.length = width := h head List.mem_cons_self
    rw [List.flatten_cons]
    cases r with
    | zero =>
      cases hrow
      rw [Nat.zero_mul, Nat.zero_add, List.getElem?_append_left (by omega)]
    | succ r =>
      have hplace : (r + 1) * width + c = head.length + (r * width + c) := by
        rw [hhead, Nat.succ_mul]
        omega
      rw [hplace, List.getElem?_append_right (Nat.le_add_right _ _), Nat.add_sub_cancel_left]
      exact ih (fun row hm => h row (List.mem_cons_of_mem _ hm)) hrow

end RowByRow

/-! ## Columns and their arguments -/

/-- Some of the columns of an entity have the encodings declared for their fields. -/
theorem EntitySchema.Built.encoding_of_columns {mapCamelCase : Bool} {names : List String}
    {schema : EntitySchema} (h : schema.Built type mapCamelCase names)
    {kept : FieldPlan EntityRole → Bool} {plan : FieldPlan EntityRole}
    (hm : plan ∈ schema.columns.filter kept) : plan.encoding = type.marks.encoding plan.name :=
  (h.plan_of_mem (EntitySchema.mem_fields_of_mem_columns (List.mem_filter.1 hm).1)).2

/-- The argument of a column is the value of its field. -/
theorem Record.getElem?_of_bindAll {record : Record} {plans : List (FieldPlan EntityRole)}
    {args : List Scalar} (h : record.bindAll plans = .ok args) {c : Nat}
    {plan : FieldPlan EntityRole} (hplan : plans[c]? = some plan) :
    ∃ arg, args[c]? = some arg ∧ (record.get plan.name).bind plan.name plan.encoding = .ok arg :=
  getElem?_of_forall₂ (mapM_eq_ok.1 h) hplan

/-- The rows of an INSERT of several entities are of the records that these are read as. -/
theorem RecordType.exists_records_of_batchRows {schema : EntitySchema} {values : List Datum}
    {rows : List (List Scalar)} (h : values.mapM (type.batchRow schema) = .ok rows) :
    ∃ records, values.mapM (Record.read type.name) = .ok records ∧
      List.Forall₂ (fun (record : Record) row => record.bindAll schema.batchColumns = .ok row)
        records rows := by
  rw [mapM_eq_ok] at h
  induction h with
  | nil => exact ⟨[], rfl, .nil⟩
  | cons hvalue _ ih =>
    obtain ⟨record, hrecord, hrow⟩ := bind_eq_ok.1 hvalue
    obtain ⟨records, hrecords, hrows⟩ := ih
    refine ⟨record :: records, ?_, .cons hrow hrows⟩
    rw [mapM_eq_ok] at hrecords ⊢
    exact .cons hrecord hrecords

/-! ## The statement -/

/-- The parts of the text of an INSERT. -/
structure InsertParts where
  table : String
  columns : List String
  rows : List String
  tail : String

namespace InsertParts

/-- The parts put together. -/
def text (parts : InsertParts) : String :=
  "INSERT INTO " ++ parts.table ++ " (" ++ ", ".intercalate parts.columns ++ ") VALUES " ++
    ", ".intercalate parts.rows ++ parts.tail

/-- Each row has as many values as there are columns. -/
def Fits (parts : InsertParts) : Prop :=
  ∀ row ∈ parts.rows, Text.listSize row = parts.columns.length

end InsertParts

/-- The statement puts the records of a type into the given columns: it names these columns, it has
    a row for each record, and the argument at place `c` of row `r` is what the record `r` holds for
    the column `c`, in the encoding declared for the field. -/
structure Fragment.Inserts (f : Statement) (type : RecordType)
    (columns : List (FieldPlan EntityRole)) (records : List Record) (parts : InsertParts) :
    Prop where
  text_eq : f.text = parts.text
  columns_eq : parts.columns = columns.map (·.column)
  length_rows : parts.rows.length = records.length
  length_args : f.args.length = records.length * columns.length
  args_at : ∀ (r c : Nat) (record : Record) (plan : FieldPlan EntityRole),
    records[r]? = some record → columns[c]? = some plan →
      ∃ arg, f.args[r * columns.length + c]? = some arg ∧
        (record.get plan.name).bind plan.name (type.marks.encoding plan.name) = .ok arg

variable {columns : List (FieldPlan EntityRole)} {records : List Record} {rows : List (List Scalar)}

@[simp] theorem args_insertInto (table : String) (columns : List (FieldPlan EntityRole))
    (rows : List (List Scalar)) : (insertInto table columns rows).args = rows.flatten := by
  have hhead : ("INSERT INTO " ++ table ++ " (" ++ columnList columns ++ ") VALUES " :
      Fragment).args = [] := rfl
  rw [insertInto, Fragment.args_append, Fragment.args_joinWith, hhead, List.nil_append,
    List.flatMap_map]
  exact List.flatMap_id

/-- The parts of an INSERT of rows of one width. -/
def insertParts (table : String) (columns : List (FieldPlan EntityRole)) (count : Nat)
    (tail : String) : InsertParts :=
  ⟨table, columns.map (·.column), List.replicate count (Fragment.placeholderList columns.length),
    tail⟩

theorem text_insertInto_eq {table tail : String} (h : ∀ row ∈ rows, row.length = columns.length) :
    (insertInto table columns rows ++ tail).text =
      (insertParts table columns rows.length tail).text := by
  have htexts : (rows.map Fragment.argumentList).map Fragment.text =
      List.replicate rows.length (Fragment.placeholderList columns.length) := by
    rw [List.map_map, List.eq_replicate_iff, List.length_map]
    refine ⟨rfl, fun text hm => ?_⟩
    obtain ⟨row, hrow, rfl⟩ := List.mem_map.1 hm
    exact congrArg Fragment.placeholderList (h row hrow)
  rw [insertInto, Fragment.text_append, Fragment.text_append, Fragment.text_joinWith, htexts]
  rfl

/-- The rows fit the columns exactly where there is a column. -/
theorem fits_insertParts_iff {table tail : String} {count : Nat} (hcount : count ≠ 0) :
    (insertParts table columns count tail).Fits ↔ columns ≠ [] := by
  have hrows : (insertParts table columns count tail).Fits ↔
      max columns.length 1 = columns.length := by
    unfold InsertParts.Fits insertParts
    rw [List.length_map]
    constructor
    · intro h
      have hrow := h _ (List.mem_replicate.2 ⟨hcount, rfl⟩)
      rwa [Fragment.listSize_placeholderList] at hrow
    · intro h row hm
      rw [List.eq_of_mem_replicate hm, Fragment.listSize_placeholderList, h]
  rw [hrows, ← List.length_pos_iff]
  omega

/-- An INSERT of rows puts into the columns the records that the rows are of. -/
theorem Fragment.inserts_insertInto (table tail : String)
    (hencoding : ∀ plan ∈ columns, plan.encoding = type.marks.encoding plan.name)
    (hrows : List.Forall₂ (fun (record : Record) row => record.bindAll columns = .ok row)
      records rows) :
    (insertInto table columns rows ++ ofText tail).Inserts type columns records
      (insertParts table columns records.length tail) := by
  have hwidth : ∀ row ∈ rows, row.length = columns.length := by
    intro row hm
    obtain ⟨record, -, hrow⟩ := exists_of_mem_mapM (mapM_eq_ok.2 hrows) hm
    exact length_of_mapM hrow
  have hargs : (insertInto table columns rows ++ ofText tail).args = rows.flatten := by
    rw [args_append, args_insertInto, args_ofText, List.append_nil]
  refine ⟨?_, rfl, List.length_replicate, ?_, ?_⟩
  · rw [text_insertInto_eq hwidth, hrows.length_eq]
  · rw [hargs, length_flatten_rows hwidth, hrows.length_eq]
  · intro r c record plan hrecord hplan
    obtain ⟨hc, -⟩ := List.getElem?_eq_some_iff.1 hplan
    obtain ⟨row, hrow, hbound⟩ := getElem?_of_forall₂ hrows hrecord
    obtain ⟨arg, harg, hbind⟩ := Record.getElem?_of_bindAll hbound hplan
    refine ⟨arg, ?_, hencoding plan (List.mem_of_getElem? hplan) ▸ hbind⟩
    rw [hargs, getElem?_flatten_rows hwidth hrow hc, harg]

namespace Entity

theorem create_inserts {e : Entity} (h : e.create s = .ok f) :
    ∃ schema record table, e.type.asEntity s = .ok schema ∧ e.record = .ok record ∧
      f.Inserts e.type (schema.insertColumns record) [record]
        (insertParts table (schema.insertColumns record) 1 "") := by
  obtain ⟨schema, hschema, record, hrecord, args, hargs, table, -, rfl⟩ := create_eq_ok.1 h
  obtain ⟨names, hb⟩ := RecordType.entitySchema_built hschema
  have hinserts := Fragment.inserts_insertInto table ""
    (fun plan hm => hb.encoding_of_columns hm) (.cons hargs .nil)
  rw [Fragment.append_ofText_empty] at hinserts
  exact ⟨schema, record, table, hschema, hrecord, hinserts⟩

theorem createBatch_inserts {values : List Datum} {updateColumns : List String}
    (h : createBatch type values s updateColumns = .ok (some f)) :
    values ≠ [] ∧ ∃ schema records table updates, type.asEntity s = .ok schema ∧
      values.mapM (Record.read type.name) = .ok records ∧
      updateColumns.mapM schema.reuse = .ok updates ∧
      f.Inserts type schema.batchColumns records
        (insertParts table schema.batchColumns records.length (onDuplicate updates)) := by
  cases values with
  | nil => cases h
  | cons first rest =>
    obtain ⟨schema, hschema, -, -, table, -, rows, hrows, updates, hupdates, hf⟩ :=
      createBatch_cons_eq_ok.1 h
    cases hf
    obtain ⟨names, hb⟩ := RecordType.entitySchema_built hschema
    obtain ⟨records, hrecords, hof⟩ := RecordType.exists_records_of_batchRows hrows
    exact ⟨List.cons_ne_nil _ _, schema, records, table, updates, hschema, hrecords, hupdates,
      Fragment.inserts_insertInto table _ (fun plan hm => hb.encoding_of_columns hm) hof⟩

/-- An INSERT of one entity or of several has a row for each entity, and its arguments are those of
    the entities row by row. The rows have as many values as there are columns if and only if there
    is a column. -/
theorem rows_fit_iff (s : Settings) :
    (∀ (e : Entity) f, e.create s = .ok f →
      ∃ schema record parts, e.type.asEntity s = .ok schema ∧ e.record = .ok record ∧
        f.Inserts e.type (schema.insertColumns record) [record] parts ∧ parts.tail = "" ∧
        (parts.Fits ↔ schema.insertColumns record ≠ [])) ∧
    ∀ (type : RecordType) values updateColumns f,
      createBatch type values s updateColumns = .ok (some f) →
      ∃ schema records updates parts, type.asEntity s = .ok schema ∧
        values.mapM (Record.read type.name) = .ok records ∧
        updateColumns.mapM schema.reuse = .ok updates ∧
        f.Inserts type schema.batchColumns records parts ∧ parts.tail = onDuplicate updates ∧
        (parts.Fits ↔ schema.batchColumns ≠ []) := by
  constructor
  · intro e f h
    obtain ⟨schema, record, table, hschema, hrecord, hinserts⟩ := create_inserts h
    exact ⟨schema, record, _, hschema, hrecord, hinserts, rfl, fits_insertParts_iff Nat.one_ne_zero⟩
  · intro type values updateColumns f h
    obtain ⟨hvalues, schema, records, table, updates, hschema, hrecords, hupdates, hinserts⟩ :=
      createBatch_inserts h
    have hcount : records.length ≠ 0 := by
      rw [length_of_mapM hrecords]
      exact mt List.length_eq_zero_iff.1 hvalues
    exact ⟨schema, records, updates, _, hschema, hrecords, hupdates, hinserts, rfl,
      fits_insertParts_iff hcount⟩

/-- Tickets, with an id that the database makes and a state that goes by its name. -/
def ticket : RecordType :=
  ⟨"TicketEntity", some ["id", "title", "state"], "t_ticket", none, none,
    [("id", .id), ("id", .generated), ("state", .enumAsString)]⟩

/-- A ticket without an id. -/
def ofTicket (title state : String) : Datum :=
  .record [("id", .missing), ("title", .text title), ("state", .variant 1 state)]

set_option maxRecDepth 20000 in
theorem rows_fit_ofTicket :
    ∃ f, createBatch ticket [ofTicket "a" "Open", ofTicket "b" "Done"] .default [] =
        .ok (some f) ∧
      ∃ schema records parts, f.Inserts ticket (EntitySchema.batchColumns schema) records parts ∧
        parts.Fits := by
  have hbatch : createBatch ticket [ofTicket "a" "Open", ofTicket "b" "Done"] .default [] =
      .ok (some ⟨"INSERT INTO t_ticket (title, state) VALUES (?, ?), (?, ?)",
        [.text "a", .text "Open", .text "b", .text "Done"]⟩) := by cbv
  obtain ⟨schema, records, updates, parts, -, -, -, hinserts, -, hfits⟩ :=
    (rows_fit_iff .default).2 _ _ _ _ hbatch
  refine ⟨_, hbatch, schema, records, parts, hinserts, hfits.2 fun hnone => ?_⟩
  have hlength := hinserts.length_args
  rw [hnone, List.length_nil, Nat.mul_zero] at hlength
  exact absurd (List.length_eq_zero_iff.1 hlength) (List.cons_ne_nil _ _)

/-- Numbers that the database hands out. -/
def handedOut : RecordType :=
  ⟨"NumberEntity", some ["id"], "t_number", none, none, [("id", .id), ("id", .generated)]⟩

set_option maxRecDepth 20000 in
/-- There is no column, but each row has a value. -/
theorem insert_without_columns :
    (Entity.mk handedOut (.record [("id", .missing)])).create .default =
        .ok ⟨"INSERT INTO t_number () VALUES (null)", []⟩ ∧
      createBatch handedOut [.record [("id", .missing)], .record [("id", .missing)]] .default [] =
        .ok (some ⟨"INSERT INTO t_number () VALUES (null), (null)", []⟩) ∧
      Text.listSize "()" = 0 ∧ Text.listSize "(null)" = 1 := by
  refine ⟨by cbv, by cbv, by decide, by decide⟩

end Entity

end CriteriaSql
