/-
  The catalog: schemas that were asked for once are kept. An entry is found by the type, the use it
  is put to and the mapping of camel case, and a request that fails leaves no entry.
-/
import CriteriaSql.Schema.Criteria
import CriteriaSql.Schema.Entity

namespace CriteriaSql

/-- The schema of a type in either use. -/
inductive Schema
  | criteria (schema : CriteriaSchema)
  | entity (schema : EntitySchema)
  deriving DecidableEq, Repr

/-- What a type is used as. -/
inductive SchemaUse
  | criteria
  | entity
  deriving DecidableEq, Repr

/-- What a schema depends on. -/
structure SchemaKey where
  type : RecordType
  use : SchemaUse
  mapCamelCase : Bool
  deriving DecidableEq, Repr

/-- The schema of a key. -/
def SchemaKey.build (key : SchemaKey) : Except Error Schema :=
  match key.use with
  | .criteria => (key.type.criteriaSchema key.mapCamelCase).map .criteria
  | .entity => (key.type.entitySchema key.mapCamelCase).map .entity

/-- The schemas that are kept, each under its key. -/
abbrev Catalog := List (SchemaKey × Schema)

namespace Catalog

/-- The schema kept under a key. -/
def find? (catalog : Catalog) (key : SchemaKey) : Option Schema :=
  (List.find? (·.1 == key) catalog).map (·.2)

/-- The schema of a key, kept or built, and the catalog after that. -/
def request (catalog : Catalog) (key : SchemaKey) : Except Error Schema × Catalog :=
  match catalog.find? key with
  | some schema => (.ok schema, catalog)
  | none =>
    match key.build with
    | .ok schema => (.ok schema, catalog ++ [(key, schema)])
    | .error e => (.error e, catalog)

theorem request_of_error {catalog : Catalog} {key : SchemaKey} {e : Error}
    (h : (catalog.request key).1 = .error e) : (catalog.request key).2 = catalog := by
  unfold request at h ⊢
  cases hf : catalog.find? key with
  | some schema => simp
  | none =>
    cases hb : key.build with
    | ok schema => simp [hf, hb] at h
    | error e => simp

end Catalog

end CriteriaSql
