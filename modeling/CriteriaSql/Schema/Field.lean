/-
  Declared types and the plans of their fields. A criteria field restricts rows in one of six
  forms; an entity field holds a column or stands for related entities.
-/
import CriteriaSql.Schema.Mark
import CriteriaSql.Schema.Template
import CriteriaSql.FieldName

namespace CriteriaSql

/-! ## Declarations -/

/-- The declaration of a criteria type or of an entity type. Only a type with fields can be used;
    the join clause and the grouping count where it is used as criteria. -/
structure RecordType where
  name : String
  fields : Option (List String)
  table : String
  join : Option String
  groupBy : Option String
  marks : Marks
  deriving DecidableEq, Repr

namespace RecordType

/-- The names of the fields. -/
def fieldNames (type : RecordType) : Except Error (List String) :=
  match type.fields with
  | some names => .ok names
  | none => .error (.notAStruct type.name)

/-- Checks that every mark is of a field. -/
def checkMarks (type : RecordType) (names : List String) : Except Error Unit :=
  match type.marks.fields.find? (!names.contains ·) with
  | some field => .error (.unknownField type.name field)
  | none => .ok ()

end RecordType

/-- Reads a template that refers to none but the given fields. -/
def Template.parseOver (kind : TemplateKind) (names : List String) (source : String) :
    Except Error Template := do
  let t ← Template.parse kind source
  match t.fieldNames.find? (!names.contains ·) with
  | some field => .error (.invalidTemplate t.source (.unknownField field))
  | none => pure t

/-! ## Plans -/

/-- A field with its column, its kind and what stands for a variant in it. -/
structure FieldPlan (κ : Type) where
  name : String
  column : String
  kind : κ
  encoding : Encoding
  deriving DecidableEq, Repr

/-- The column in a select list, under the name of the field. -/
def FieldPlan.selected {κ : Type} (plan : FieldPlan κ) : String :=
  if plan.column = plan.name then plan.column else plan.column ++ " AS " ++ plan.name

/-- A column and the operator it is compared with. -/
structure ColumnTest where
  column : String
  operator : Operator
  deriving DecidableEq, Repr

/-- How a criteria field restricts rows. -/
inductive FilterForm
  /-- The column is compared with the value. -/
  | simple (op : Operator)
  /-- One of several columns is compared with the value. -/
  | anyOf (tests : List ColumnTest)
  /-- A condition as written; its placeholders take the value. -/
  | custom (template : String)
  /-- The id is selected by a query that compares the column with the value. -/
  | subQuery (select source : String) (op : Operator)
  /-- A column is selected by nested queries, of which the innermost compares the value. -/
  | nested (queries : NestedQueries) (op : Operator)
  /-- The id is reached over the join tables of a path from the ids that the value compares. -/
  | domainPath (path : DomainPath) (op : Operator)
  deriving DecidableEq, Repr

/-- What an entity field is. -/
inductive EntityRole
  | column
  | relation (relation : Relation)
  deriving DecidableEq, Repr

/-- The kind of a field of any type. -/
inductive FieldKind
  | filter (form : FilterForm)
  | role (role : EntityRole)
  deriving DecidableEq, Repr

end CriteriaSql
