/-
  Statements that read the entities related to given owners. Each owner has a clause of its own,
  with the owner's id in a column, and the clauses are united.
-/
import CriteriaSql.Statement.Write

namespace CriteriaSql

namespace Related

/-! ## Clauses -/

/-- The column that holds the owner's id. -/
def keyColumn : String := "PK_FOR_JOIN"

/-- A statement with a gap for the owner's id. -/
abbrev ByOwner := Scalar → Fragment

/-- The select list of a clause: the owner's id, then the columns of the related entity. -/
def head (columns : String) : ByOwner := fun owner =>
  "SELECT " ++ Fragment.argument owner ++ " AS " ++ keyColumn ++ ", " ++ columns

/-- The clause of a relation over one domain: many entities refer to their owner, and one is
    referred to by the owner. -/
def directClause (s : Settings) (columns ownerTable domain foreignKey : String) :
    Cardinality → ByOwner
  | .one => fun owner =>
    head columns owner ++ " FROM " ++ s.table domain ++ " WHERE id = (SELECT " ++ foreignKey ++
      " FROM " ++ ownerTable ++ " WHERE id = " ++ Fragment.argument owner ++ ")"
  | .many => fun owner =>
    head columns owner ++ " FROM " ++ s.table domain ++ " WHERE " ++
      columnEquals foreignKey owner

/-- Whether the path of an owner is read from its end: the owner's table is not that of the first
    domain. -/
def readsFromEnd (s : Settings) (ownerTable first : String) : Bool := ownerTable != s.table first

/-- The clause of a relation over several domains: the steps from the owner's key to the keys of
    the target table. -/
def joinedClause (columns target : String) (hop : Hop) (hops : List Hop) : ByOwner := fun owner =>
  head columns owner ++ " FROM " ++ target ++ " WHERE id IN (" ++
    Condition.pathQuery (columnEquals hop.source owner) hop hops ++ ")"

/-- The clause of a relation field. -/
def relationClause (s : Settings) (field columns ownerTable : String) (relation : Relation) :
    Except Error ByOwner :=
  match relation.path.domains with
  | [] => .error (.noStep field)
  | [domain] =>
    match relation.path.foreignKey with
    | some foreignKey =>
      .ok (directClause s columns ownerTable domain foreignKey relation.cardinality)
    | none => .error (.invalidDomainPath field .noRelationKey)
  | first :: _ => do
    let expanded := relation.path.expand s (readsFromEnd s ownerTable first)
    let (hop, hops) ← expanded.steps field
    pure (joinedClause columns expanded.targetTable hop hops)

/-- The conditions and the page of a query on a clause. What orders or cuts rows has to stand in
    parentheses within a union. -/
def restrict (s : Settings) (page : Page) (order : Option String) (conditions : List Fragment)
    (clause : Fragment) : Fragment :=
  let all := clause ++ Fragment.concat (conditions.map fun c => " AND " ++ c)
  let cut := page.cut s (all ++ optionalClause " ORDER BY " order)
  if page.isCut || order.isSome then cut.parenthesized else cut

/-- What a query adds to the clauses of a relation. -/
structure Filter where
  schema : CriteriaSchema
  record : Record
  page : Page

/-- A filter at work on clauses. -/
def Filter.apply (filter : Filter) (s : Settings) : Except Error (Fragment → Fragment) := do
  let conditions ← filter.schema.conditions s filter.record none
  let order ← filter.page.orderBy s.mapCamelCase
  pure (restrict s filter.page order conditions)

/-- What a filter makes of a clause; without one the clause stays as it is. -/
def restriction (s : Settings) : Option Filter → Except Error (Fragment → Fragment)
  | some filter => filter.apply s
  | none => .ok id

/-- The clauses of the owners, united. -/
def union (clause : ByOwner) (owners : List Scalar) : Fragment :=
  Fragment.joinWith " UNION ALL " (owners.map clause)

/-- The clause of each owner of a relation field, perhaps under a filter. -/
def ownerClause (s : Settings) (owner joined : RecordType) (field : String)
    (filter : Option Filter) : Except Error ByOwner := do
  let ownerSchema ← owner.asEntity s
  let relation ← ownerSchema.relation field
  let joinedSchema ← joined.asEntity s
  let ownerTable ← ownerSchema.table.render .empty
  let clause ← relationClause s field joinedSchema.selectList ownerTable relation
  let within ← restriction s filter
  pure fun id => within (clause id)

/-- The statement for the owners of a relation field. There is none for no owners. -/
def statement (s : Settings) (owner joined : RecordType) (field : String) (ids : List Scalar)
    (filter : Option Filter) : Except Error (Option Statement) :=
  if ids.isEmpty then .ok none
  else do
    let clause ← ownerClause s owner joined field filter
    pure (some (union clause ids))

end Related

/-! ## Statements -/

/-- The related entities of the owners with the given ids. -/
def RecordType.related (owner joined : RecordType) (s : Settings) (field : String)
    (ids : List Scalar) : Except Error (Option Statement) :=
  Related.statement s owner joined field ids none

/-- The related entities that a query describes; its order and page are those of each owner. -/
def RecordType.relatedWhere (owner joined : RecordType) (s : Settings) (q : Query) (field : String)
    (ids : List Scalar) : Except Error (Option Statement) := do
  let schema ← q.schema s
  let record ← q.record
  Related.statement s owner joined field ids (some ⟨schema, record, q.page⟩)

end CriteriaSql
