/-
  Stages read back from their documents. The document of a stage is an object whose one key says
  which stage it is, and a lookup has its pipeline among its fields. Nothing of a stage is lost in
  its document (`Stage.ofJson?_toJson`), so what is said of the stage that is read is said of the
  document.
-/
import CriteriaSql.Lookup.Stage

namespace CriteriaSql.Stage

/-! ## Reading -/

/-- The view that a reference is to. -/
def view? : Json → Option String
  | .scalar (.text s) =>
    match s.toList with
    | '$' :: view => some (String.ofList view)
    | _ => none
  | _ => none

/-- The text of a field. -/
def text? (fields : List (String × Json)) (key : String) : Option String :=
  match fields.lookup key with
  | some (.scalar (.text s)) => some s
  | _ => none

mutual

/-- Reads the stage of a document. -/
def ofJson? : Json → Option Stage
  | .object [("$lookup", .object fields)] => do
    let collection ← text? fields "from"
    let localField ← text? fields "localField"
    let foreignField ← text? fields "foreignField"
    let pipeline ← pipeline? fields
    let view ← text? fields "as"
    some (.lookup collection localField foreignField pipeline view)
  | .object [("$unwind", view)] => (view? view).map .unwind
  | .object [("$replaceRoot", .object
      [("newRoot", .object [("$arrayElemAt", .array [view, .scalar (.int 0)])])])] =>
    (view? view).map .replaceRootFirst
  | .object [("$replaceRoot", .object [("newRoot", view)])] => (view? view).map .replaceRoot
  | .object [("$match", filter)] => some (.matching filter)
  | .object [("$project", .object fields)] => some (.project (fields.map Prod.fst))
  | _ => none

/-- Reads the pipeline among the fields of a lookup; where there is none it has no stages. -/
def pipeline? : List (String × Json) → Option (List Stage)
  | [] => some []
  | (key, j) :: fields => if key = "pipeline" then stages? j else pipeline? fields

/-- Reads the stages of an array. -/
def stages? : Json → Option (List Stage)
  | .array js => ofJsons? js
  | _ => none

/-- Reads a stage of each document. -/
def ofJsons? : List Json → Option (List Stage)
  | [] => some []
  | j :: js => do
    let stage ← ofJson? j
    let stages ← ofJsons? js
    some (stage :: stages)

end

/-! ## There and back -/

theorem view?_reference (view : String) : view? (reference view) = some view := by
  have hmark : ("$" ++ view).toList = '$' :: view.toList := String.toList_append
  rw [reference, Json.text, view?, hmark]
  exact congrArg some String.ofList_toList

mutual

/-- A stage is read back from its document. -/
theorem ofJson?_toJson : (stage : Stage) → ofJson? stage.toJson = some stage
  | .lookup collection localField foreignField pipeline view => by
    have hpipeline := ofJsons?_toJsons pipeline
    cases pipeline with
    | nil => rfl
    | cons stage stages =>
      show (ofJsons? (toJsons (stage :: stages))).bind
        (fun pipeline => some (lookup collection localField foreignField pipeline view)) = _
      rw [hpipeline]
      rfl
  | .unwind view => by
    show (view? (reference view)).map unwind = _
    rw [view?_reference]
    rfl
  | .replaceRoot view => by
    show (view? (reference view)).map replaceRoot = _
    rw [view?_reference]
    rfl
  | .replaceRootFirst view => by
    show (view? (reference view)).map replaceRootFirst = _
    rw [view?_reference]
    rfl
  | .matching filter => rfl
  | .project fields => by
    show some (project ((fields.map fun f => (f, Json.int 1)).map Prod.fst)) = _
    rw [List.map_map]
    exact congrArg (fun fields => some (project fields)) (List.map_id fields)

theorem ofJsons?_toJsons : (stages : List Stage) → ofJsons? (toJsons stages) = some stages
  | [] => rfl
  | stage :: stages => by
    rw [toJsons, ofJsons?, ofJson?_toJson stage, ofJsons?_toJsons stages]
    rfl

end

end CriteriaSql.Stage
