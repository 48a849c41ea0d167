/-
  Schemas of entity types: their columns, their relations and their id.
-/
import CriteriaSql.Schema.Field

namespace CriteriaSql

/-- The id of an entity; a generated one is left to the database. -/
structure IdPlan where
  name : String
  column : String
  generated : Bool
  deriving DecidableEq, Repr

/-- An entity type in the form in which statements use it. -/
structure EntitySchema where
  typeName : String
  table : Template
  fields : List (FieldPlan EntityRole)
  id : Option IdPlan
  deriving DecidableEq, Repr

namespace EntitySchema

/-! ## Parts -/

/-- The plan of a field. -/
def field? (schema : EntitySchema) (name : String) : Option (FieldPlan EntityRole) :=
  schema.fields.find? (·.name == name)

/-- The fields that are columns. -/
def columns (schema : EntitySchema) : List (FieldPlan EntityRole) :=
  schema.fields.filter (·.kind == .column)

/-- The columns under the names of their fields, as a select list. -/
def selectList (schema : EntitySchema) : String :=
  ", ".intercalate (schema.columns.map (·.selected))

/-- Whether the database makes the id. -/
def hasGeneratedId (schema : EntitySchema) : Bool := schema.id.any (·.generated)

/-- Whether the field is the id. -/
def isId (schema : EntitySchema) (field : String) : Bool := schema.id.any (·.name == field)

/-- Whether the field is an id that the database makes. -/
def isGeneratedId (schema : EntitySchema) (field : String) : Bool :=
  schema.id.any fun id => id.generated && id.name == field

/-- The column by which an entity is found. -/
def idColumn (schema : EntitySchema) : String := (schema.id.map (·.column)).getD "id"

/-- The relation of a field. -/
def relation (schema : EntitySchema) (field : String) : Except Error Relation :=
  match schema.field? field with
  | some ⟨_, _, .relation relation, _⟩ => .ok relation
  | _ => .error (.unknownRelation schema.typeName field)

/-! ## Plans -/

/-- The relation that a mark declares. -/
def markedRelation? : Mark → Option Relation
  | .relation relation => some relation
  | _ => none

/-- What a field is: a relation by its first mark of that kind, or else a column. -/
def role (marks : Marks) (field : String) : Except Error EntityRole :=
  match (marks.ofField field).findSome? markedRelation? with
  | some relation => (relation.path.validate field 1).map fun _ => .relation relation
  | none => .ok .column

/-- The plan of a field. -/
def plan (marks : Marks) (mapCamelCase : Bool) (field : String) :
    Except Error (FieldPlan EntityRole) := do
  let role ← role marks field
  pure ⟨field, Naming.column mapCamelCase field, role, marks.encoding field⟩

/-- Whether the field is a part of the entity: it is not ignored, and the name of the table does
    not take its value. -/
def stores (marks : Marks) (table : Template) (field : String) : Bool :=
  !(marks.has field .ignore || table.references field)

/-- The id of a type: the first field marked as one, or else the field `id`. It is generated if
    it is the only one marked and is marked so; no other field may be marked. -/
def resolveId (type : RecordType) (names : List String) (mapCamelCase : Bool) :
    Except Error (Option IdPlan) :=
  let ids := names.filter (type.marks.has · .id)
  match names.find? fun n => type.marks.has n .generated && !ids.contains n with
  | some stray => .error (.strayGenerated type.name stray)
  | none =>
    let generated :=
      match ids with
      | [id] => type.marks.has id .generated
      | _ => false
    let name := ids.head?.or (names.find? (· == "id"))
    .ok (name.map fun name => ⟨name, Naming.column mapCamelCase name, generated⟩)

end EntitySchema

/-- The schema of a type used as an entity. -/
def RecordType.entitySchema (type : RecordType) (mapCamelCase : Bool) :
    Except Error EntitySchema := do
  let names ← type.fieldNames
  type.checkMarks names
  let table ← Template.parseOver .table names type.table
  let plans ← (names.filter (EntitySchema.stores type.marks table)).mapM
    (EntitySchema.plan type.marks mapCamelCase)
  let id ← EntitySchema.resolveId type names mapCamelCase
  pure ⟨type.name, table, plans, id⟩

end CriteriaSql
