/-
  The number of rows and the rows. COUNT and SELECT of a query take their rows from the same table,
  under the same join clause and the same conditions; order and page follow behind the rows of the
  SELECT alone. So wherever a SELECT is built in a built-in dialect, COUNT is built with the same
  arguments, the two texts have the rows in common, and nothing but the select list of the SELECT
  depends on the columns asked for (`count_sees_selected_rows`).
-/
import CriteriaSql.Proofs.Restriction
import CriteriaSql.Proofs.Shape.Conditions
import Mathlib

namespace CriteriaSql

variable {s : Settings} {q : Query} {f : Statement} {kind : DialectKind}

/-! ## What follows the rows -/

/-- The page clause of a SELECT. -/
def DialectKind.pageClause (kind : DialectKind) (limit : UInt32) (offset : UInt64) : String :=
  match kind with
  | limitOffset =>
    " LIMIT " ++ toString limit.toNat ++ " OFFSET " ++ toString offset.toNat
  | offsetFetch =>
    " OFFSET " ++ toString offset.toNat ++ " ROWS FETCH NEXT " ++ toString limit.toNat ++
      " ROWS ONLY"

/-- A built-in dialect puts the page clause behind a SELECT, whatever is selected. -/
theorem DialectKind.page_select (kind : DialectKind) (rest : String) (limit : UInt32)
    (offset : UInt64) :
    kind.page ("SELECT " ++ rest) limit offset =
      "SELECT " ++ rest ++ kind.pageClause limit offset := by
  have hselect : "SELECT".toList.isPrefixOf ("SELECT " ++ rest).toList = true := by
    rw [List.isPrefixOf_iff_prefix, String.toList_append]
    exact ⟨' ' :: rest.toList, rfl⟩
  unfold page
  dsimp only
  rw [hselect]
  cases kind <;> simp only [pageClause, String.append_assoc]

/-- The page clause of a SELECT, if rows are to be cut off. -/
def Page.clause (page : Page) (kind : DialectKind) : String :=
  if page.isCut then kind.pageClause page.effectiveSize page.offset else ""

theorem Page.cut_select (page : Page) (hdialect : s.dialect = .builtIn kind) (rest : Fragment) :
    page.cut s ("SELECT " ++ rest) = "SELECT " ++ rest ++ Fragment.ofText (page.clause kind) := by
  unfold cut clause
  split
  · rw [hdialect]
    change Fragment.mk _ _ = Fragment.mk _ _
    rw [Fragment.text_append, Fragment.text_ofText, Dialect.page, DialectKind.page_select]
    simp
  · rw [Fragment.append_ofText_empty]

/-! ## The rows -/

/-- The texts of conditions as one text, if there is a condition. -/
def conditionsText (conditions : List Fragment) : Option String :=
  match conditions with
  | [] => none
  | cs => some (" AND ".intercalate (cs.map Fragment.text))

theorem text_whereClause_eq (conditions : List Fragment) :
    (whereClause conditions).text = optionalClause " WHERE " (conditionsText conditions) := by
  cases conditions with
  | nil => rfl
  | cons condition conditions =>
    change (" WHERE " ++ Fragment.joinWith " AND " (condition :: conditions) : Fragment).text = _
    rw [Fragment.text_append, Fragment.text_joinWith]
    rfl

/-- The text of rows with one join clause or none. -/
theorem Rows.text_sql_eq {rows : Rows} {join : Option Fragment}
    (hjoins : rows.joins = join.toList) :
    rows.sql.text = " FROM " ++ rows.table ++ optionalClause " " (join.map Fragment.text) ++
      optionalClause " WHERE " (conditionsText rows.conditions) := by
  have hjoin : (Fragment.concat (rows.joins.map fun j => " " ++ j)).text =
      optionalClause " " (join.map Fragment.text) := by
    rw [hjoins, Fragment.text_concat]
    cases join with
    | none => rfl
    | some join => simp [optionalClause]
  rw [Rows.sql, Fragment.text_append, Fragment.text_append, hjoin, text_whereClause_eq]
  rfl

namespace Query

/-- The join clause of a type is one clause or none, also where it is bound. -/
theorem joins_of_rows {schema : CriteriaSchema} {rows : Rows}
    (h : q.rows s schema schema.join.toList none = .ok rows) :
    ∃ join : Option Fragment, rows.joins = join.toList := by
  obtain ⟨record, -, table, -, bound, hbound, cs, -, rfl⟩ := rows_eq_ok.1 h
  obtain ⟨join, -, hjoin⟩ := toList_mapM_eq_ok.1 hbound
  exact ⟨join, hjoin.symm⟩

/-- A SELECT in a built-in dialect is its rows between the select list and the clauses that order
    and cut them. -/
theorem select_eq_ok (hdialect : s.dialect = .builtIn kind) {columns : List String} :
    q.select s columns = .ok f ↔
      ∃ schema, q.schema s = .ok schema ∧
        ∃ rows, q.rows s schema schema.join.toList none = .ok rows ∧
        ∃ order, q.page.orderBy s.mapCamelCase = .ok order ∧
        "SELECT " ++ selectList columns ++ rows.sql ++
          (optionalClause " GROUP BY " schema.groupBy ++ optionalClause " ORDER BY " order ++
            q.page.clause kind : String) = f := by
  have hcut : ∀ (schema : CriteriaSchema) (rows : Rows) (order : Option String),
      q.page.cut s ("SELECT " ++ selectList columns ++ rows.sql ++
        optionalClause " GROUP BY " schema.groupBy ++ optionalClause " ORDER BY " order) =
      "SELECT " ++ selectList columns ++ rows.sql ++
        (optionalClause " GROUP BY " schema.groupBy ++ optionalClause " ORDER BY " order ++
          q.page.clause kind : String) := by
    -- the page is cut off the whole text, but its clause depends on nothing in front of it
    intro schema rows order
    have hselect := q.page.cut_select hdialect (selectList columns ++ rows.sql ++
      optionalClause " GROUP BY " schema.groupBy ++ optionalClause " ORDER BY " order)
    simpa only [Fragment.append_assoc, Fragment.ofText_append] using hselect
  simp only [select, selectOver_eq_ok, Option.toList_none, List.append_nil, hcut]

/-- Where a SELECT in a built-in dialect is built, COUNT is built, with the same arguments. One text
    of the rows, with the table, the join clause and the conditions, stands behind the head of COUNT
    and behind the select list; behind the rows, SELECT has its grouping, its order and its page and
    nothing else. A SELECT of any other columns is the same but for the select list. -/
theorem count_sees_selected_rows (hdialect : s.dialect = .builtIn kind) {columns : List String}
    {selected : Statement} (h : q.select s columns = .ok selected) :
    ∃ schema rows join order counted, ∃ middle behind : String,
      q.schema s = .ok schema ∧ q.rows s schema schema.join.toList none = .ok rows ∧
      rows.joins = Option.toList join ∧ q.page.orderBy s.mapCamelCase = .ok order ∧
      middle = " FROM " ++ rows.table ++ optionalClause " " (join.map Fragment.text) ++
        optionalClause " WHERE " (conditionsText rows.conditions) ∧
      behind = optionalClause " GROUP BY " schema.groupBy ++ optionalClause " ORDER BY " order ++
        q.page.clause kind ∧
      q.count s = .ok counted ∧ counted.args = selected.args ∧
      counted.text = "SELECT " ++ countExpr schema.groupBy ++ middle ∧
      selected.text = "SELECT " ++ selectList columns ++ middle ++ behind ∧
      ∀ columns', q.select s columns' =
        .ok ⟨"SELECT " ++ selectList columns' ++ middle ++ behind, selected.args⟩ := by
  obtain ⟨schema, hschema, rows, hrows, order, horder, rfl⟩ := (select_eq_ok hdialect).1 h
  obtain ⟨join, hjoins⟩ := joins_of_rows hrows
  have hmiddle := Rows.text_sql_eq hjoins
  refine ⟨schema, rows, join, order, _, _, _, hschema, hrows, hjoins, horder, hmiddle, rfl,
    count_eq_ok.2 ⟨schema, hschema, rows, hrows, rfl⟩, ?_, rfl, rfl, fun columns' => ?_⟩
  · simp
  · exact (select_eq_ok hdialect).2 ⟨schema, hschema, rows, hrows, order, horder, rfl⟩

/-- A page of the grown-up users, by name. -/
def ofGrownUps : Query :=
  ⟨⟨"UserQuery", some ["ageGe", "roleId"], "user", some "JOIN r ON r.id = #\x7broleId\x7d", none,
      []⟩,
    .record [("ageGe", .int ⟨true, .w64⟩ 18), ("roleId", .int ⟨true, .w64⟩ 1)],
    ⟨some 2, some 10, some "name,desc"⟩⟩

set_option maxRecDepth 20000 in
theorem count_sees_grownUps :
    ofGrownUps.select .default [] =
        .ok ⟨"SELECT * FROM user JOIN r ON r.id = ? WHERE age >= ? ORDER BY name desc" ++
          " LIMIT 10 OFFSET 20", [.int 1, .int 18]⟩ ∧
      ∃ counted, ofGrownUps.count .default = .ok counted ∧ counted.args = [.int 1, .int 18] := by
  have hselect : ofGrownUps.select .default [] =
      .ok ⟨"SELECT * FROM user JOIN r ON r.id = ? WHERE age >= ? ORDER BY name desc" ++
        " LIMIT 10 OFFSET 20", [.int 1, .int 18]⟩ := by cbv
  have hdialect : Settings.default.dialect = .builtIn .limitOffset := rfl
  obtain ⟨schema, rows, join, order, counted, middle, behind, -, -, -, -, -, -, hcount, hargs, -⟩ :=
    count_sees_selected_rows hdialect hselect
  exact ⟨hselect, counted, hcount, hargs⟩

end Query

end CriteriaSql
