/-
  Lookups: documents that join related documents along a path. A lookup finds documents by a key
  and runs the stages of a pipeline on what it finds.
-/
import CriteriaSql.Lookup.Filter
import CriteriaSql.Statement.Write

namespace CriteriaSql

/-! ## Stages -/

/-- A stage of a pipeline. -/
inductive Stage
  /-- Finds the documents of a collection whose foreign field equals the local one. -/
  | lookup (collection localField foreignField : String) (pipeline : List Stage) (view : String)
  /-- Makes one document of each item of a view. -/
  | unwind (view : String)
  /-- Goes on with a view in place of the document. -/
  | replaceRoot (view : String)
  /-- Goes on with the first item of a view in place of the document. -/
  | replaceRootFirst (view : String)
  /-- Keeps the documents that pass a filter, which is a document itself. -/
  | matching (filter : Json)
  /-- Keeps the given fields. -/
  | project (fields : List String)

namespace Stage

/-- A reference to a field. -/
def reference (view : String) : Json := Json.text ("$" ++ view)

mutual

/-- The stage as a document. A lookup without a pipeline says nothing of one. -/
def toJson : Stage → Json
  | .lookup collection localField foreignField pipeline view =>
    .field "$lookup" (.object
      ([("from", Json.text collection), ("localField", Json.text localField),
        ("foreignField", Json.text foreignField)] ++
      (if pipeline.isEmpty then [] else [("pipeline", .array (toJsons pipeline))]) ++
      [("as", Json.text view)]))
  | .unwind view => .field "$unwind" (reference view)
  | .replaceRoot view => .field "$replaceRoot" (.field "newRoot" (reference view))
  | .replaceRootFirst view =>
    .field "$replaceRoot"
      (.field "newRoot" (.field "$arrayElemAt" (.array [reference view, Json.int 0])))
  | .matching filter => .field "$match" filter
  | .project fields => .field "$project" (.object (fields.map fun f => (f, Json.int 1)))

/-- The documents of the stages of a pipeline. -/
def toJsons : List Stage → List Json
  | [] => []
  | stage :: stages => stage.toJson :: toJsons stages

end

end Stage

/-! ## Paths -/

namespace Lookup

/-- The field of a document's id. -/
def idField : String := "_id"

/-- The stages that go on from the keys of one step to those of the next, ending in `last`. After
    each lookup come the stages `after`. -/
def onward (view : String) (after : List Stage) (hops : List Hop) (last : List Stage) :
    List Stage :=
  hops.foldr (fun hop inner => .lookup hop.table hop.source hop.source inner view :: after) last

/-- The lookup over the steps of a path, from the document's id to the documents of the target
    table. `after` follows every lookup within it, and `closing` the innermost one. -/
def overPath (view : String) (after closing : List Stage) (path : ExpandedPath) :
    Except Error Stage := do
  let (hop, hops) ← path.steps view
  let key := (hops.getLastD hop).target
  let target := .lookup path.targetTable key idField [] view :: closing
  pure (.lookup hop.table idField hop.source (onward view after hops target) view)

end Lookup

/-! ## Lookups -/

/-- The stage that keeps the columns of a view, each of them once. -/
def EntitySchema.projection (schema : EntitySchema) : Stage :=
  .project (schema.columns.map (·.name)).eraseDups

/-- The lookup of the related documents of a relation field. Over several domains they have to pass
    the filter of the query. -/
def RecordType.lookup (owner view : RecordType) (s : Settings) (q : Query) (field : String) :
    Except Error Stage := do
  let ownerSchema ← owner.asEntity s
  let relation ← ownerSchema.relation field
  let viewSchema ← view.asEntity s
  let project := viewSchema.projection
  match relation.path.domains with
  | [domain] =>
    match relation.path.foreignKey with
    | none => .error (.invalidDomainPath field .noRelationKey)
    | some foreignKey =>
      match relation.cardinality with
      | .many => pure (.lookup (s.table domain) Lookup.idField foreignKey [project] field)
      | .one => pure (.lookup (s.table domain) foreignKey Lookup.idField [project] field)
  | _ =>
    let filter ← q.filter s
    let after := [Stage.unwind field, .replaceRoot field]
    let path := relation.path.expand s (relation.isReversed field)
    Lookup.overPath field after (after ++ [.matching filter.toJson, project]) path

/-- The lookup of the one document that a view stands for. -/
def DomainPath.lookup (path : DomainPath) (s : Settings) (view : String) : Except Error Stage := do
  path.validate view 1
  match path.domains with
  | [domain] =>
    match path.localField with
    | none => .error (.invalidDomainPath view .noLocalField)
    | some localField => pure (.lookup (s.table domain) localField Lookup.idField [] view)
  | _ =>
    let after := [Stage.replaceRootFirst view]
    Lookup.overPath view after after (path.expand s (path.isNamedForFirst view))

end CriteriaSql
