/-
  Schemas of criteria types: which condition each field poses.
-/
import CriteriaSql.Schema.Field

namespace CriteriaSql

/-- A criteria type in the form in which statements use it. -/
structure CriteriaSchema where
  typeName : String
  table : Template
  join : Option Template
  groupBy : Option String
  fields : List (FieldPlan FilterForm)
  deriving DecidableEq, Repr

namespace CriteriaSchema

/-- Whether the join clause takes the field. -/
def joinTakes (schema : CriteriaSchema) (field : String) : Bool :=
  schema.join.any (·.references field)

/-- The plan of a field. -/
def field? (schema : CriteriaSchema) (name : String) : Option (FieldPlan FilterForm) :=
  schema.fields.find? (·.name == name)

/-! ## Forms -/

/-- The form that a mark gives to a field. -/
def markedForm? (field : String) (op : Operator) : Mark → Option (Except Error FilterForm)
  | .queryField template => some (.ok (.custom template))
  | .subQuery select source => some (.ok (.subQuery select source op))
  | .nested queries => some ((queries.validate field).map fun _ => .nested queries op)
  | .domainPath path => some ((path.validate field 2).map fun _ => .domainPath path op)
  | _ => none

/-- The form that the name of a field gives to it. -/
def namedForm (mapCamelCase : Bool) (field : String) (op : Operator) : FilterForm :=
  let members := FieldName.members field
  if members.length > 1 then
    .anyOf (members.map fun m => ⟨Naming.column mapCamelCase m.base, m.operator⟩)
  else .simple op

/-- The plan of a field: the first mark that gives a form, or else the name. -/
def plan (marks : Marks) (mapCamelCase : Bool) (field : String) :
    Except Error (FieldPlan FilterForm) := do
  let (base, op) := Operator.ofName field
  let form ←
    ((marks.ofField field).findSome? (markedForm? field op)).getD
      (.ok (namedForm mapCamelCase field op))
  pure ⟨field, Naming.column mapCamelCase base, form, marks.encoding field⟩

/-- Whether the field restricts rows by itself: it is not ignored, and neither the table nor the
    join clause takes its value. -/
def restricts (marks : Marks) (table : Template) (join : Option Template)
    (field : String) : Bool :=
  !(marks.has field .ignore || table.references field || join.any (·.references field))

end CriteriaSchema

/-- The schema of a type used as criteria. -/
def RecordType.criteriaSchema (type : RecordType) (mapCamelCase : Bool) :
    Except Error CriteriaSchema := do
  let names ← type.fieldNames
  type.checkMarks names
  let table ← Template.parseOver .table names type.table
  let join ← type.join.mapM (Template.parseOver .join names)
  let plans ← (names.filter (CriteriaSchema.restricts type.marks table join)).mapM
    (CriteriaSchema.plan type.marks mapCamelCase)
  pure
    { typeName := type.name
      table
      join
      groupBy := (type.groupBy.map Text.trim).filter (· != "")
      fields := plans }

end CriteriaSql
