/-
  Statements about entities: INSERT, UPDATE, and the statements that find an entity by its id.
-/
import CriteriaSql.Schema.Entity
import CriteriaSql.Statement.Select

namespace CriteriaSql

/-! ## Entities and ids -/

/-- An entity: its type and its values. -/
structure Entity where
  type : RecordType
  value : Datum

/-- An id by itself. It may be wrapped in a value whose fields name the entity's table. -/
structure Id where
  value : Scalar
  wrapper : Datum

/-- The schema of a type as an entity, under the given settings. -/
def RecordType.asEntity (type : RecordType) (s : Settings) : Except Error EntitySchema :=
  type.entitySchema s.mapCamelCase

/-- The values of the entity. -/
def Entity.record (e : Entity) : Except Error Record := Record.read e.type.name e.value

/-- An id without a wrapper. -/
def Id.plain (value : Scalar) : Id := ⟨value, .unit⟩

/-- The fields beside an id; an id without a wrapper has none. -/
def Id.record (id : Id) : Except Error Record :=
  match Record.read "Id" id.wrapper with
  | .error (.notAStruct _) => .ok .empty
  | result => result

/-! ## Parts -/

/-- The arguments of the given columns. -/
def Record.bindAll (record : Record) (plans : List (FieldPlan EntityRole)) :
    Except Error (List Scalar) :=
  plans.mapM fun plan => (record.get plan.name).bind plan.name plan.encoding

/-- The names of the given columns. -/
def columnList (plans : List (FieldPlan EntityRole)) : String :=
  ", ".intercalate (plans.map (·.column))

/-- INSERT of rows into columns of a table. -/
def insertInto (table : String) (plans : List (FieldPlan EntityRole)) (rows : List (List Scalar)) :
    Fragment :=
  "INSERT INTO " ++ table ++ " (" ++ columnList plans ++ ") VALUES " ++
    Fragment.joinWith ", " (rows.map Fragment.argumentList)

/-- A column given an argument, or compared with it. -/
def columnEquals (column : String) (arg : Scalar) : Fragment :=
  column ++ " = " ++ Fragment.argument arg

/-- UPDATE of the rows under conditions. -/
def updateOf (table : String) (assignments conditions : List Fragment) : Fragment :=
  "UPDATE " ++ table ++ " SET " ++ Fragment.joinWith ", " assignments ++ whereClause conditions

namespace EntitySchema

/-- The columns of an INSERT of one entity: all but an id that the database makes and that has no
    value. -/
def insertColumns (schema : EntitySchema) (record : Record) : List (FieldPlan EntityRole) :=
  schema.columns.filter fun plan =>
    !(schema.isGeneratedId plan.name && (record.get plan.name).isAbsent)

/-- The columns of an INSERT of several entities: all but an id that the database makes. -/
def batchColumns (schema : EntitySchema) : List (FieldPlan EntityRole) :=
  schema.columns.filter fun plan => !schema.isGeneratedId plan.name

/-- The assignments of all columns but the id, or only of those that have a value. There has to be
    one. -/
def assignments (schema : EntitySchema) (record : Record) (presentOnly : Bool) :
    Except Error (List Fragment) := do
  let plans := schema.columns.filter fun plan =>
    !schema.isId plan.name && !(presentOnly && (record.get plan.name).isAbsent)
  let sets ← plans.mapM fun plan =>
    ((record.get plan.name).bind plan.name plan.encoding).map (columnEquals plan.column)
  if sets.isEmpty then .error (.emptyPatch schema.typeName) else pure sets

/-- The id of a record as an argument. -/
def idArgument (schema : EntitySchema) (record : Record) : Except Error Scalar :=
  match schema.id with
  | none => .error (.missingId schema.typeName)
  | some id =>
    let value := record.get id.name
    if value.isAbsent then .error (.missingId schema.typeName)
    else value.bind id.name .ordinal

/-- What a further row does to one that is there: the column takes the value of the new row. -/
def reuse (schema : EntitySchema) (name : String) : Except Error String :=
  match (schema.field? name).filter (·.kind == .column) with
  | some plan => .ok (plan.column ++ " = VALUES (" ++ plan.column ++ ")")
  | none => .error (.unknownField schema.typeName name)

/-- The select list of a statement that finds an entity by its id: the given columns, or those of
    the entity. -/
def byIdList (schema : EntitySchema) (columns : List String) : String :=
  if columns.isEmpty then schema.selectList else ", ".intercalate columns

end EntitySchema

/-- What an INSERT does with rows that are there, if it says so. -/
def onDuplicate (updates : List String) : String :=
  if updates.isEmpty then "" else " ON DUPLICATE KEY UPDATE " ++ ", ".intercalate updates

/-- The row of an entity in an INSERT of several. -/
def RecordType.batchRow (type : RecordType) (schema : EntitySchema) (value : Datum) :
    Except Error (List Scalar) := do
  let record ← Record.read type.name value
  record.bindAll schema.batchColumns

/-! ## Statements -/

namespace Entity

/-- INSERT of one entity. An id that the database makes is left out where it has no value. -/
def create (e : Entity) (s : Settings) : Except Error Statement := do
  let schema ← e.type.asEntity s
  let record ← e.record
  let args ← record.bindAll (schema.insertColumns record)
  let table ← schema.table.render record
  pure (insertInto table (schema.insertColumns record) [args])

/-- INSERT of several entities of a type into the table of the first one, without an id that the
    database makes. Where columns are given, rows that are there take their new values. There is no
    statement for no entities. -/
def createBatch (type : RecordType) (values : List Datum) (s : Settings)
    (updateColumns : List String) : Except Error (Option Statement) :=
  match values with
  | [] => .ok none
  | first :: _ => do
    let schema ← type.asEntity s
    let table ← schema.table.render (← Record.read type.name first)
    let rows ← values.mapM (type.batchRow schema)
    let updates ← updateColumns.mapM schema.reuse
    pure (some (insertInto table schema.batchColumns rows ++ onDuplicate updates))

/-- UPDATE of an entity by its id: of all columns, or of those that have a value. -/
def updateById (e : Entity) (s : Settings) (presentOnly : Bool) : Except Error Statement := do
  let schema ← e.type.asEntity s
  let record ← e.record
  let sets ← schema.assignments record presentOnly
  let table ← schema.table.render record
  let id ← schema.idArgument record
  pure (updateOf table sets [columnEquals schema.idColumn id])

/-- UPDATE of all columns of an entity. -/
def update (e : Entity) (s : Settings) : Except Error Statement := e.updateById s false

/-- UPDATE of those columns of an entity that have a value. -/
def patchById (e : Entity) (s : Settings) : Except Error Statement := e.updateById s true

/-- UPDATE of the columns that have a value in all rows that a query describes. -/
def patchByQuery (e : Entity) (s : Settings) (q : Query) : Except Error Statement := do
  let schema ← e.type.asEntity s
  let record ← e.record
  let sets ← schema.assignments record true
  let table ← schema.table.render record
  let criteria ← q.schema s
  let values ← q.record
  let conditions ← criteria.conditions s values none
  pure (updateOf table sets conditions)

end Entity

namespace RecordType

/-- DELETE of the entity with an id. -/
def deleteById (type : RecordType) (s : Settings) (id : Id) : Except Error Statement := do
  let schema ← type.asEntity s
  let record ← id.record
  let table ← schema.table.render record
  pure ("DELETE" ++ Rows.sql ⟨table, [], [columnEquals schema.idColumn id.value]⟩)

/-- SELECT of the entity with an id: the given columns, or its own. -/
def selectById (type : RecordType) (s : Settings) (id : Id) (columns : List String) :
    Except Error Statement := do
  let schema ← type.asEntity s
  let record ← id.record
  let table ← schema.table.render record
  pure ("SELECT " ++ schema.byIdList columns ++
    Rows.sql ⟨table, [], [columnEquals schema.idColumn id.value]⟩)

/-- Whether the database makes the id of the type. -/
def hasGeneratedId (type : RecordType) (s : Settings) : Except Error Bool := do
  let schema ← type.asEntity s
  pure schema.hasGeneratedId

end RecordType

end CriteriaSql
