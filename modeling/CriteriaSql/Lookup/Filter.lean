/-
  Document filters: the conditions of a criteria object as a document. Only comparisons of columns
  and alternatives of them have such a form.
-/
import CriteriaSql.Statement.Select

namespace CriteriaSql

/-! ## Tests -/

/-- A comparison of one column of a document. A null check has no operand of its own. -/
structure DocumentTest where
  column : String
  operator : Operator
  operand : Json

namespace DocumentTest

/-- The keyword of an operator that has one. -/
def keyword? : Operator → Option String
  | .eq | .isNull => none
  | .ne | .notNull => some "$ne"
  | .oneOf => some "$in"
  | .noneOf => some "$nin"
  | .like => some "$regex"
  | .gt => some "$gt"
  | .ge => some "$gte"
  | .lt => some "$lt"
  | .le => some "$lte"

/-- The test as a document. -/
def toJson (t : DocumentTest) : Json :=
  match keyword? t.operator with
  | some keyword => .field t.column (.field keyword t.operand)
  | none => .field t.column t.operand

end DocumentTest

/-! ## Patterns -/

/-- The characters with a meaning of their own in a pattern. -/
def patternMarks : List Char :=
  ['\\', '.', '+', '*', '?', '(', ')', '|', '[', ']', '\x7b', '\x7d', '^', '$', '#', '&', '-', '~']

/-- The pattern that finds the text itself. -/
def literalPattern (text : String) : String :=
  String.ofList (text.toList.flatMap fun c => if c ∈ patternMarks then ['\\', c] else [c])

/-- The test that compares a column with a value. No document is inside an empty collection, and
    a test for being outside it is left out. -/
def Operand.test (x : Operand) (column : String) (op : Operator) :
    Except Error (Option DocumentTest) :=
  match op with
  | .isNull | .notNull => .ok (some ⟨column, op, Json.null⟩)
  | .oneOf | .noneOf =>
    match x.value with
    | .list items =>
      if op = .noneOf ∧ items.isEmpty then .ok none
      else (x.value.operand x.field x.encoding).map fun j => some ⟨column, op, j⟩
    | _ => x.refuse (.needsCollection op)
  | .like =>
    match x.value with
    | .scalar (.text text) => .ok (some ⟨column, op, Json.text (literalPattern text)⟩)
    | _ => x.refuse (.needsText op)
  | _ =>
    if x.value.isCompound then x.refuse (.needsSingle op)
    else (x.value.operand x.field x.encoding).map fun j => some ⟨column, op, j⟩

/-! ## Filters -/

/-- What one field contributes to a filter. -/
inductive FilterClause
  | one (test : DocumentTest)
  | anyOf (tests : List DocumentTest)

/-- The clause as a document. -/
def FilterClause.toJson : FilterClause → Json
  | one test => test.toJson
  | anyOf tests => .field "$or" (.array (tests.map DocumentTest.toJson))

/-- A filter by several clauses, all of which have to hold. -/
structure DocumentFilter where
  clauses : List FilterClause

/-- The filter as a document: empty without clauses, the clause itself if there is one. -/
def DocumentFilter.toJson (filter : DocumentFilter) : Json :=
  match filter.clauses with
  | [] => .object []
  | [clause] => clause.toJson
  | clauses => .field "$and" (.array (clauses.map FilterClause.toJson))

/-- The clause of a criteria field for a value, if any. -/
def FieldPlan.filterClause (plan : FieldPlan FilterForm) (value : FieldValue) :
    Except Error (Option FilterClause) :=
  let x : Operand := ⟨plan.name, plan.encoding, value⟩
  if value.isIdle then .ok none
  else
    match plan.kind with
    | .simple op => (x.test plan.column op).map fun found => found.map .one
    | .anyOf tests => do
      let found ← tests.mapM fun t => x.test t.column t.operator
      let found := found.filterMap id
      pure (if found.isEmpty then none else some (.anyOf found))
    | _ => x.refuse .notInDocuments

/-- The filter of a record, in the order of the fields. -/
def CriteriaSchema.filter (schema : CriteriaSchema) (record : Record) :
    Except Error DocumentFilter := do
  let found ← schema.fields.mapM fun plan => plan.filterClause (record.get plan.name)
  pure ⟨found.filterMap id⟩

/-- The filter of a criteria object. -/
def Query.filter (q : Query) (s : Settings) : Except Error DocumentFilter := do
  let schema ← q.schema s
  let record ← q.record
  schema.filter record

end CriteriaSql
