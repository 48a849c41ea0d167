/-
  Relations between entities, and nested queries given level by level.
-/
import CriteriaSql.Schema.Path
import CriteriaSql.Text.Search

namespace CriteriaSql

/-! ## Relations -/

/-- Whether a relation field holds one entity or many. -/
inductive Cardinality
  | one
  | many
  deriving DecidableEq, Repr

/-- A field that stands for related entities. -/
structure Relation where
  path : DomainPath
  cardinality : Cardinality
  deriving DecidableEq, Repr

/-- Whether a field's name asks for the first domain of its path, so that the path is read from its
    end. -/
def DomainPath.isNamedForFirst (path : DomainPath) (field : String) : Bool :=
  match path.domains.head? with
  | some first => Text.contains field first
  | none => false

/-- Whether the path of a relation is read from its end: it has more than one domain, and the name
    of the field asks for the first one. -/
def Relation.isReversed (relation : Relation) (field : String) : Bool :=
  relation.path.domains.length > 1 && relation.path.isNamedForFirst field

/-! ## Nested queries -/

/-- One level of nested queries. `where?` is the column compared with what the next level selects;
    it is the column of that name unless given. `extra?` is a join clause. -/
structure Level where
  select : String
  source : String
  where? : Option String
  extra? : Option String
  deriving DecidableEq, Repr

/-- Nested queries, outermost level first. `column` is compared with what the outermost one selects.
    Where no condition is appended, a value only switches the whole on. -/
structure NestedQueries where
  column : String
  levels : List Level
  appendWhere : Bool
  deriving DecidableEq, Repr

/-- Checks that there is a level, and that no join clause of one holds a placeholder. -/
def NestedQueries.validate (queries : NestedQueries) (field : String) : Except Error Unit :=
  if queries.levels = [] then .error (.invalidDomainPath field .noLevels)
  else if queries.levels.any fun l => l.extra?.any fun e => Text.contains e "?" then
    .error (.invalidDomainPath field .placeholderInJoin)
  else .ok ()

end CriteriaSql
