/-
  Requests: the calls of all builders as one type, so that a property of every statement is stated
  once. `Request.pieces` says which parts of a statement carry its arguments, from left to right.
-/
import CriteriaSql.Proofs.Assembly

namespace CriteriaSql

/-! ## Calls -/

/-- A call of a builder with all that it is given. -/
inductive Request
  /-- SELECT of the given columns; of everything where there are none. -/
  | select (q : Query) (columns : List String)
  | selectId (q : Query)
  | selectJoined (q : Query) (join : String) (columns : List String)
  | count (q : Query)
  | delete (q : Query)
  | create (e : Entity)
  | createBatch (type : RecordType) (values : List Datum) (updateColumns : List String)
  | update (e : Entity)
  | patchById (e : Entity)
  | patchByQuery (e : Entity) (q : Query)
  | deleteById (type : RecordType) (id : Id)
  | selectById (type : RecordType) (id : Id) (columns : List String)
  | related (owner joined : RecordType) (field : String) (ids : List Scalar)
  | relatedWhere (owner joined : RecordType) (q : Query) (field : String) (ids : List Scalar)

namespace Request

/-- The answer to a request. There is no statement for no entities and for no owners. -/
def statement (s : Settings) : Request → Except Error (Option Statement)
  | select q columns => (q.select s columns).map some
  | selectId q => (q.selectId s).map some
  | selectJoined q join columns => (q.selectJoined s join columns).map some
  | count q => (q.count s).map some
  | delete q => (q.delete s).map some
  | create e => (e.create s).map some
  | createBatch type values updateColumns => Entity.createBatch type values s updateColumns
  | update e => (e.update s).map some
  | patchById e => (e.patchById s).map some
  | patchByQuery e q => (e.patchByQuery s q).map some
  | deleteById type id => (type.deleteById s id).map some
  | selectById type id columns => (type.selectById s id columns).map some
  | related owner joined field ids => owner.related joined s field ids
  | relatedWhere owner joined q field ids => owner.relatedWhere joined s q field ids

end Request

/-! ## Pieces -/

/-- The join clauses of a query, then its conditions. -/
def Query.pieces (q : Query) (s : Settings) (joins : CriteriaSchema → List Template)
    (taken : Option Template) : Except Error (List Fragment) := do
  let schema ← q.schema s
  let rows ← q.rows s schema (joins schema) taken
  pure (rows.joins ++ rows.conditions)

/-- The assignments of an UPDATE by id, then the condition on the id. -/
def Entity.updatePieces (e : Entity) (s : Settings) (presentOnly : Bool) :
    Except Error (List Fragment) := do
  let schema ← e.type.asEntity s
  let record ← e.record
  let sets ← schema.assignments record presentOnly
  let id ← schema.idArgument record
  pure (sets ++ [columnEquals schema.idColumn id])

/-- The condition on an id. -/
def RecordType.idPieces (type : RecordType) (s : Settings) (id : Id) :
    Except Error (List Fragment) := do
  let schema ← type.asEntity s
  pure [columnEquals schema.idColumn id.value]

/-- The clauses of the owners of a relation field. -/
def Related.pieces (s : Settings) (owner joined : RecordType) (field : String) (ids : List Scalar)
    (filter : Option Filter) : Except Error (List Fragment) := do
  let clause ← ownerClause s owner joined field filter
  pure (ids.map clause)

namespace Request

/-- The parts of a statement that carry its arguments, from left to right: join clauses, rows of
    values, assignments, conditions, and the clauses of a union. -/
def pieces (s : Settings) : Request → Except Error (List Fragment)
  | select q _ | selectId q | count q => q.pieces s (·.join.toList) none
  | selectJoined q join _ => do
    let join ← Template.parse .join join
    q.pieces s (·.join.toList ++ [join]) (some join)
  | delete q => q.pieces s (fun _ => []) none
  | create e => do
    let schema ← e.type.asEntity s
    let record ← e.record
    let args ← record.bindAll (schema.insertColumns record)
    pure [Fragment.argumentList args]
  | createBatch type values _ => do
    let schema ← type.asEntity s
    let rows ← values.mapM (type.batchRow schema)
    pure (rows.map Fragment.argumentList)
  | update e => e.updatePieces s false
  | patchById e => e.updatePieces s true
  | patchByQuery e q => do
    let schema ← e.type.asEntity s
    let record ← e.record
    let sets ← schema.assignments record true
    let criteria ← q.schema s
    let values ← q.record
    let conditions ← criteria.conditions s values none
    pure (sets ++ conditions)
  | deleteById type id | selectById type id _ => type.idPieces s id
  | related owner joined field ids => Related.pieces s owner joined field ids none
  | relatedWhere owner joined q field ids => do
    let schema ← q.schema s
    let record ← q.record
    Related.pieces s owner joined field ids (some ⟨schema, record, q.page⟩)

end Request

/-! ## An example -/

/-- A query for the users of an age. -/
def Query.ofAge (age : String) : Query :=
  ⟨⟨"UserQuery", some ["age"], "user", none, none, []⟩, .record [("age", .text age)], .all⟩

end CriteriaSql
