/-
  Conditions: what a criteria field contributes to a WHERE clause. A field without a value, and a
  flag that is not set, contribute nothing.
-/
import CriteriaSql.LikePattern
import CriteriaSql.Schema.Criteria

namespace CriteriaSql

/-! ## One column -/

/-- A value together with the field that it is bound for. -/
structure Operand where
  field : String
  encoding : Encoding
  value : FieldValue

namespace Operand

/-- The value as one argument. -/
def bind (x : Operand) : Except Error Scalar := x.value.bind x.field x.encoding

/-- The items of a collection as arguments. -/
def bindItems (x : Operand) (items : List FieldValue) : Except Error (List Scalar) :=
  items.mapM fun item => item.bind x.field x.encoding

/-- The error of a value whose shape does not fit. -/
def refuse {α : Type} (x : Operand) (fault : ShapeFault) : Except Error α :=
  .error (.valueShape x.field fault)

/-- The condition that compares a column with the value. A null check asks for no value; an empty
    collection holds nothing, so no row is in it and every row is outside it. -/
def compare (x : Operand) (column : String) (op : Operator) : Except Error (Option Fragment) :=
  let head := Fragment.ofText (column ++ op.sql)
  match op with
  | .isNull | .notNull => .ok (some head)
  | .oneOf | .noneOf =>
    match x.value with
    | .list [] => .ok (if op = .oneOf then some (head ++ Fragment.argumentList []) else none)
    | .list items => do
      let args ← x.bindItems items
      pure (some (head ++ Fragment.argumentList args))
    | _ => x.refuse (.needsCollection op)
  | .like =>
    match x.value with
    | .scalar (.text text) =>
      .ok (some (head ++ Fragment.argument (.text (LikePattern.containing text))))
    | _ => x.refuse (.needsText op)
  | _ =>
    if x.value.isCompound then x.refuse (.needsSingle op)
    else do
      let arg ← x.bind
      pure (some (head ++ Fragment.argument arg))

end Operand

namespace Condition

/-! ## Forms -/

/-- The conditions of several columns as alternatives, less those that are left out. -/
def anyOf (x : Operand) (tests : List ColumnTest) : Except Error (Option Fragment) := do
  let found ← tests.mapM fun t => x.compare t.column t.operator
  match found.filterMap id with
  | [] => pure none
  | [f] => pure (some f)
  | fs => pure (some (Fragment.joinWith " OR " fs).parenthesized)

/-- A condition as written. A collection of as many items as there are placeholders gives each its
    item; any other value is given to every placeholder. -/
def custom (x : Operand) (template : String) : Except Error Fragment :=
  let count := Text.countChar '?' template
  if count = 0 then .ok (Fragment.ofText template)
  else
    let once : Except Error Fragment := do
      let arg ← x.bind
      pure ⟨template, List.replicate count arg⟩
    match x.value with
    | .list items =>
      if items.length = count then do
        let args ← x.bindItems items
        pure ⟨template, args⟩
      else once
    | _ => once

/-- The id is selected by a query under a condition. -/
def subQuery (select source : String) (condition : Fragment) : Fragment :=
  "id IN (SELECT " ++ select ++ " FROM " ++ source ++ " WHERE " ++ condition ++ ")"

/-- The start of one level of nested queries. -/
def levelHead (level : Level) : String :=
  let head := "SELECT " ++ level.select ++ " FROM " ++ level.source
  match level.extra? with
  | some extra => head ++ " " ++ extra
  | none => head

/-- The query of a level and the levels within it; `tail` follows the innermost one. -/
def nestedQuery (tail : Fragment) : Level → List Level → Fragment
  | level, [] => levelHead level ++ tail
  | level, next :: levels =>
    levelHead level ++ " WHERE " ++ level.where?.getD next.select ++ " IN (" ++
      nestedQuery tail next levels ++ ")"

/-- A column is selected by nested queries. The innermost one compares its own column, or that of
    the field, with the value. -/
def nested (x : Operand) (column : String) (queries : NestedQueries) (op : Operator) :
    Except Error (Option Fragment) :=
  match queries.levels with
  | [] => .ok none
  | level :: levels =>
    let within (tail : Fragment) : Fragment :=
      queries.column ++ " IN (" ++ nestedQuery tail level levels ++ ")"
    if queries.appendWhere then do
      let last := levels.getLastD level
      let condition ← x.compare (last.where?.getD column) op
      pure (condition.map fun f => within (" WHERE " ++ f))
    else .ok (some (within Fragment.empty))

/-- The query for the keys at the end of a step, under a condition on its source. -/
def hopQuery (hop : Hop) (condition : Fragment) : Fragment :=
  "SELECT " ++ hop.target ++ " FROM " ++ hop.table ++ " WHERE " ++ condition

/-- The query for the keys at the end of a path whose first step is under a condition: each further
    step starts from the keys that the steps before it reach. -/
def pathQuery (condition : Fragment) (hop : Hop) (hops : List Hop) : Fragment :=
  hops.foldl (fun inner h => hopQuery h (h.source ++ " IN (" ++ inner ++ ")"))
    (hopQuery hop condition)

/-- Whether a path filter is read from the end of its path: the field's name asks for the last
    domain and not for the first one. -/
def readsFromEnd (path : DomainPath) (field : String) : Bool :=
  match path.domains.head?, path.domains.getLast? with
  | some first, some last => !Text.contains field first && Text.contains field last
  | _, _ => false

/-- The id is reached over the join tables of a path. The value is compared with the key of the
    first domain, before any step is taken. -/
def domainPath (x : Operand) (s : Settings) (path : DomainPath) (op : Operator) :
    Except Error (Option Fragment) :=
  let expanded := path.expand s (readsFromEnd path x.field)
  match expanded.joinIds with
  | [] => .ok none
  | key :: _ => do
    match ← x.compare key op with
    | none => pure none
    | some condition =>
      let (hop, hops) ← expanded.steps x.field
      pure (some ("id IN (" ++ pathQuery condition hop hops ++ ")"))

end Condition

/-! ## Fields -/

/-- The condition that a criteria field poses for a value, if any. -/
def FieldPlan.condition (plan : FieldPlan FilterForm) (s : Settings) (value : FieldValue) :
    Except Error (Option Fragment) :=
  let x : Operand := ⟨plan.name, plan.encoding, value⟩
  if value.isIdle then .ok none
  else
    match plan.kind with
    | .simple op => x.compare plan.column op
    | .anyOf tests => Condition.anyOf x tests
    | .custom template => (Condition.custom x template).map some
    | .subQuery select source op => do
      let condition ← x.compare plan.column op
      pure (condition.map (Condition.subQuery select source))
    | .nested queries op => Condition.nested x plan.column queries op
    | .domainPath path op => Condition.domainPath x s path op

/-- The condition that a field of any type poses; what an entity stores restricts nothing. -/
def FieldPlan.anyCondition (plan : FieldPlan FieldKind) (s : Settings) (value : FieldValue) :
    Except Error (Option Fragment) :=
  match plan.kind with
  | .filter form => { plan with kind := form : FieldPlan FilterForm }.condition s value
  | .role _ => .ok none

/-- The conditions of a record, in the order of the fields. Fields that a further join clause takes
    pose none. -/
def CriteriaSchema.conditions (schema : CriteriaSchema) (s : Settings) (record : Record)
    (taken : Option Template) : Except Error (List Fragment) := do
  let plans := schema.fields.filter fun plan => !taken.any (·.references plan.name)
  let found ← plans.mapM fun plan => plan.condition s (record.get plan.name)
  pure (found.filterMap id)

end CriteriaSql
