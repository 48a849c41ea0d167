/-
  Statements that read or delete the rows a criteria object describes: SELECT, COUNT and DELETE.
-/
import CriteriaSql.Page.Basic
import CriteriaSql.Statement.Condition

namespace CriteriaSql

/-! ## Criteria objects -/

/-- A criteria object: its type, its values and the page asked for. -/
structure Query where
  type : RecordType
  value : Datum
  page : Page

namespace Query

/-- The schema of the query's type. -/
def schema (q : Query) (s : Settings) : Except Error CriteriaSchema :=
  q.type.criteriaSchema s.mapCamelCase

/-- The values of the query. -/
def record (q : Query) : Except Error Record := Record.read q.type.name q.value

end Query

/-! ## Clauses -/

/-- A WHERE clause, or nothing where there is no condition. -/
def whereClause (conditions : List Fragment) : Fragment :=
  match conditions with
  | [] => .empty
  | cs => " WHERE " ++ Fragment.joinWith " AND " cs

/-- The rows a statement is about: a table, what is joined to it, and the conditions. -/
structure Rows where
  table : String
  joins : List Fragment
  conditions : List Fragment
  deriving DecidableEq, Repr

/-- The table with its joins and the WHERE clause. -/
def Rows.sql (rows : Rows) : Fragment :=
  " FROM " ++ rows.table ++ Fragment.concat (rows.joins.map fun j => " " ++ j) ++
    whereClause rows.conditions

/-- A text behind a keyword, or nothing. -/
def optionalClause (keyword : String) (body : Option String) : String :=
  match body with
  | some body => keyword ++ body
  | none => ""

/-- Cuts the page out of a statement, if rows are to be cut off. -/
def Page.cut (page : Page) (s : Settings) (f : Fragment) : Fragment :=
  if page.isCut then { f with text := s.dialect.page f.text page.effectiveSize page.offset }
  else f

/-- A select list; without columns it is everything. -/
def selectList (columns : List String) : String :=
  if columns.isEmpty then "*" else ", ".intercalate columns

/-- What COUNT counts: rows, or the distinct groups. -/
def countExpr (groupBy : Option String) : String :=
  match groupBy with
  | some groupBy => "COUNT(DISTINCT(" ++ groupBy ++ "))"
  | none => "COUNT(*)"

/-! ## Statements -/

namespace Query

/-- The rows of a query over the given join clauses. Fields that the further clause `taken` refers
    to pose no condition of their own. -/
def rows (q : Query) (s : Settings) (schema : CriteriaSchema) (joins : List Template)
    (taken : Option Template) : Except Error Rows := do
  let record ← q.record
  let table ← schema.table.render record
  let joins ← joins.mapM (·.bind record)
  let conditions ← schema.conditions s record taken
  pure ⟨table, joins, conditions⟩

/-- SELECT with the type's join clause and perhaps one more. -/
def selectOver (q : Query) (s : Settings) (columns : List String) (extra : Option Template) :
    Except Error Statement := do
  let schema ← q.schema s
  let rows ← q.rows s schema (schema.join.toList ++ extra.toList) extra
  let order ← q.page.orderBy s.mapCamelCase
  pure (q.page.cut s
    ("SELECT " ++ selectList columns ++ rows.sql ++ optionalClause " GROUP BY " schema.groupBy ++
      optionalClause " ORDER BY " order))

/-- SELECT of the given columns, or of everything. -/
def select (q : Query) (s : Settings) (columns : List String) : Except Error Statement :=
  q.selectOver s columns none

/-- SELECT of the ids. -/
def selectId (q : Query) (s : Settings) : Except Error Statement := q.selectOver s ["id"] none

/-- SELECT with a further join clause. -/
def selectJoined (q : Query) (s : Settings) (join : String) (columns : List String) :
    Except Error Statement := do
  let join ← Template.parse .join join
  q.selectOver s columns (some join)

/-- The number of rows, or of groups, without regard to order and page. -/
def count (q : Query) (s : Settings) : Except Error Statement := do
  let schema ← q.schema s
  let rows ← q.rows s schema schema.join.toList none
  pure ("SELECT " ++ countExpr schema.groupBy ++ rows.sql)

/-- DELETE of the rows, without joins; a page only limits their number. -/
def delete (q : Query) (s : Settings) : Except Error Statement := do
  let schema ← q.schema s
  let rows ← q.rows s schema [] none
  pure (q.page.cut s ("DELETE" ++ rows.sql))

end Query

end CriteriaSql
