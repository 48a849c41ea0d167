/-
  What the stages of a lookup do. Read from the outside, its joins walk the steps of the path
  (`joins_overPath`). Read from the inside, every pipeline goes on with the documents that the
  lookup within it finds, so what the whole finds is what the closing stages make of the documents
  of the target table (`found_overPath`). What the document of a lookup does is what the stage does
  that is read in it.
-/
import CriteriaSql.Lookup.Stage
import CriteriaSql.Proofs.Lookup.StageDocument
import CriteriaSql.Proofs.Path.Steps
import Mathlib

namespace CriteriaSql

/-! ## Joins -/

/-- A join of documents: those of the collection whose foreign field equals the local one. -/
structure Join where
  collection : String
  localField : String
  foreignField : String
  deriving DecidableEq, Repr

/-- The join of a step that goes on from the key that the step before it has reached. -/
def Hop.join (hop : Hop) : Join := ⟨hop.table, hop.source, hop.source⟩

namespace Stage

mutual

/-- The joins of a stage, from the outermost to the innermost. -/
def joins : Stage → List Join
  | .lookup collection localField foreignField pipeline _ =>
    ⟨collection, localField, foreignField⟩ :: joinsOf pipeline
  | _ => []

/-- The joins of the stages of a pipeline. -/
def joinsOf : List Stage → List Join
  | [] => []
  | stage :: stages => stage.joins ++ joinsOf stages

end

end Stage

/-- The joins of a document, from the outermost to the innermost. -/
def Json.joins (document : Json) : Option (List Join) :=
  (Stage.ofJson? document).map Stage.joins

theorem Stage.joins_toJson (stage : Stage) : stage.toJson.joins = some stage.joins := by
  rw [Json.joins, stage.ofJson?_toJson]
  rfl

/-! ## Documents -/

/-- Where documents come from: a collection, and the filters that they have passed since. -/
structure Source where
  collection : String
  passed : List Json

/-- The documents that run through a pipeline, and those that stand in their views. -/
structure Flow where
  documents : Source
  views : String → Option Source

namespace Flow

/-- Documents without views. -/
def ofSource (source : Source) : Flow := ⟨source, fun _ => none⟩

/-- The documents with a further view. -/
def withView (flow : Flow) (view : String) (source : Source) : Flow :=
  ⟨flow.documents, fun name => if name = view then some source else flow.views name⟩

/-- The documents that pass a filter. -/
def filtered (flow : Flow) (filter : Json) : Flow :=
  ⟨⟨flow.documents.collection, flow.documents.passed ++ [filter]⟩, flow.views⟩

/-- The documents with none but the given fields. -/
def projected (flow : Flow) (fields : List String) : Flow :=
  ⟨flow.documents, fun name => if name ∈ fields then flow.views name else none⟩

end Flow

namespace Stage

mutual

/-- The documents after a stage; none where it goes on with a view that there is not. -/
def step (flow : Flow) : Stage → Option Flow
  | .lookup collection _ _ pipeline view =>
    (run (.ofSource ⟨collection, []⟩) pipeline).map fun inner => flow.withView view inner.documents
  | .unwind view => (flow.views view).map fun _ => flow
  | .replaceRoot view => (flow.views view).map Flow.ofSource
  | .replaceRootFirst view => (flow.views view).map Flow.ofSource
  | .matching filter => some (flow.filtered filter)
  | .project fields => some (flow.projected fields)

/-- The documents after the stages of a pipeline. -/
def run (flow : Flow) : List Stage → Option Flow
  | [] => some flow
  | stage :: stages => (step flow stage).bind fun next => run next stages

end

/-- The documents that a lookup finds. -/
def found : Stage → Option Source
  | .lookup collection _ _ pipeline _ =>
    (run (.ofSource ⟨collection, []⟩) pipeline).map Flow.documents
  | _ => none

end Stage

/-- The documents that the lookup of a document finds. -/
def Json.found (document : Json) : Option Source := (Stage.ofJson? document).bind Stage.found

namespace Stage

theorem found_toJson (stage : Stage) : stage.toJson.found = stage.found := by
  rw [Json.found, stage.ofJson?_toJson]
  rfl

theorem run_append (flow : Flow) (stages stages' : List Stage) :
    run flow (stages ++ stages') = (run flow stages).bind fun next => run next stages' := by
  induction stages generalizing flow with
  | nil => rfl
  | cons stage stages ih =>
    rw [List.cons_append, run, run]
    cases step flow stage with
    | none => rfl
    | some next => exact ih next

end Stage

/-! ## Paths -/

namespace Lookup

variable {view : String} {after closing : List Stage} {path : ExpandedPath} {stage : Stage}

theorem overPath_eq_ok :
    overPath view after closing path = .ok stage ↔
      ∃ hop hops, path.hops = hop :: hops ∧
        .lookup hop.table idField hop.source (onward view after hops
          (.lookup path.targetTable (hops.getLastD hop).target idField [] view :: closing)) view =
          stage := by
  simp only [overPath, bind_eq_ok, pure_eq_ok, Prod.exists, ExpandedPath.steps_eq_ok]

theorem onward_cons (hop : Hop) (hops : List Hop) (last : List Stage) :
    onward view after (hop :: hops) last =
      .lookup hop.table hop.source hop.source (onward view after hops last) view :: after := rfl

theorem joinsOf_onward (hafter : Stage.joinsOf after = []) (hops : List Hop) (last : List Stage) :
    Stage.joinsOf (onward view after hops last) =
      hops.map Hop.join ++ Stage.joinsOf last := by
  induction hops with
  | nil => rfl
  | cons hop hops ih =>
    rw [onward_cons, Stage.joinsOf, Stage.joins, ih, hafter, List.append_nil, List.map_cons,
      List.cons_append, Hop.join]

/-- From the outside, a lookup over a path joins the tables of its steps, each by the key from which
    the step goes on, and then the target table by its id. -/
theorem joins_overPath (hafter : Stage.joinsOf after = []) (hclosing : Stage.joinsOf closing = [])
    (h : overPath view after closing path = .ok stage) :
    ∃ hop hops, path.hops = hop :: hops ∧
      stage.joins = ⟨hop.table, idField, hop.source⟩ ::
        (hops.map Hop.join ++ [⟨path.targetTable, (hops.getLastD hop).target, idField⟩]) := by
  obtain ⟨hop, hops, hhops, rfl⟩ := overPath_eq_ok.1 h
  refine ⟨hop, hops, hhops, ?_⟩
  rw [Stage.joins, joinsOf_onward hafter, Stage.joinsOf, Stage.joins, Stage.joinsOf, hclosing,
    List.append_nil]

/-- Stages that go on with what stands in a view, and nothing else. -/
def Enters (view : String) (after : List Stage) : Prop :=
  ∀ flow source, flow.views view = some source → Stage.run flow after = some (.ofSource source)

theorem documents_onward {source : Source} {last : List Stage} (hafter : Enters view after)
    (hlast : ∀ flow, (Stage.run flow last).map Flow.documents = some source) (hops : List Hop)
    (flow : Flow) :
    (Stage.run flow (onward view after hops last)).map Flow.documents = some source := by
  induction hops generalizing flow with
  | nil => exact hlast flow
  | cons hop hops ih =>
    obtain ⟨inner, hinner, hsource⟩ :=
      Option.map_eq_some_iff.1 (ih (.ofSource ⟨hop.table, []⟩))
    have hstep : Stage.step flow
        (.lookup hop.table hop.source hop.source (onward view after hops last) view) =
        some (flow.withView view source) := by
      rw [Stage.step, hinner, ← hsource]
      rfl
    have hview : (flow.withView view source).views view = some source := if_pos rfl
    rw [onward_cons, Stage.run, hstep, Option.bind_some, hafter _ _ hview]
    rfl

/-- What a lookup over a path finds is what its closing stages make of the documents of the target
    table. -/
theorem found_overPath {source : Source} (hafter : Enters view after)
    (hclosing : ∀ flow : Flow, flow.views view = some ⟨path.targetTable, []⟩ →
      (Stage.run flow closing).map Flow.documents = some source)
    (h : overPath view after closing path = .ok stage) : stage.found = some source := by
  obtain ⟨hop, hops, -, rfl⟩ := overPath_eq_ok.1 h
  refine documents_onward hafter (fun flow => ?_) hops _
  exact hclosing (flow.withView view ⟨path.targetTable, []⟩) (if_pos rfl)

/-- The stages that go on with each item of a view. -/
theorem enters_unwind (view : String) : Enters view [.unwind view, .replaceRoot view] := by
  intro flow source hview
  rw [Stage.run, Stage.step, hview, Option.map_some, Option.bind_some, Stage.run, Stage.step, hview]
  rfl

end Lookup

/-! ## Relations -/

/-- The lookup of a relation over one domain. -/
def Relation.directLookup (relation : Relation) (s : Settings) (domain field : String)
    (project : Stage) : Except Error Stage :=
  match relation.path.foreignKey, relation.cardinality with
  | none, _ => .error (.invalidDomainPath field .noRelationKey)
  | some foreignKey, .many =>
    .ok (.lookup (s.table domain) Lookup.idField foreignKey [project] field)
  | some foreignKey, .one =>
    .ok (.lookup (s.table domain) foreignKey Lookup.idField [project] field)

/-- The lookup of a relation over several domains, of documents that pass a filter. -/
def Relation.pathLookup (relation : Relation) (s : Settings) (filter : DocumentFilter)
    (field : String) (project : Stage) : Except Error Stage :=
  let after := [Stage.unwind field, .replaceRoot field]
  Lookup.overPath field after (after ++ [.matching filter.toJson, project])
    (relation.path.expand s (relation.isReversed field))

namespace RecordType

variable {owner view : RecordType} {s : Settings} {field : String} {relation : Relation}
  {schema viewSchema : EntitySchema} {stage : Stage} {q : Query}

theorem lookup_of_one (howner : owner.asEntity s = .ok schema)
    (hrelation : schema.relation field = .ok relation) (hview : view.asEntity s = .ok viewSchema)
    {domain : String} (hone : relation.path.domains = [domain]) (q : Query) :
    owner.lookup view s q field =
      relation.directLookup s domain field viewSchema.projection := by
  unfold lookup Relation.directLookup
  rw [howner, hview]
  simp only [bind, Except.bind, hrelation]
  split
  next domain' hdomains =>
    rw [hone, List.cons.injEq] at hdomains
    rw [hdomains.1]
    cases relation.path.foreignKey with
    | none => rfl
    | some foreignKey => cases relation.cardinality <;> rfl
  next hne => exact absurd hone (hne domain)

theorem lookup_of_ne_one (howner : owner.asEntity s = .ok schema)
    (hrelation : schema.relation field = .ok relation) (hview : view.asEntity s = .ok viewSchema)
    (hlong : relation.path.domains.length ≠ 1) (q : Query) :
    owner.lookup view s q field =
      (q.filter s).bind fun filter =>
        relation.pathLookup s filter field viewSchema.projection := by
  unfold lookup
  rw [howner, hview]
  simp only [bind, Except.bind, hrelation]
  split
  next domain hone =>
    rw [hone] at hlong
    exact absurd rfl hlong
  · rfl

theorem exists_of_lookup (h : owner.lookup view s q field = .ok stage) :
    ∃ schema, owner.asEntity s = .ok schema ∧ ∃ relation, schema.relation field = .ok relation ∧
      ∃ viewSchema, view.asEntity s = .ok viewSchema := by
  unfold lookup at h
  obtain ⟨schema, howner, h⟩ := bind_eq_ok.1 h
  obtain ⟨relation, hrelation, h⟩ := bind_eq_ok.1 h
  obtain ⟨viewSchema, hview, -⟩ := bind_eq_ok.1 h
  exact ⟨schema, howner, relation, hrelation, viewSchema, hview⟩

end RecordType

/-! ## A view with relations -/

/-- The orders of a user refer to the user. -/
def ordersOfUser : Relation := ⟨⟨["order"], some "userId", none⟩, .many⟩

/-- The roles of a user are joined to the user. -/
def rolesOfUser : Relation := ⟨⟨["user", "role"], none, none⟩, .many⟩

/-- Users with their orders and, under two names, their roles. -/
def userView : RecordType :=
  ⟨"UserView", some ["id", "orders", "roles", "userRoles"], "t_user", none, none,
    [("orders", .relation ordersOfUser), ("roles", .relation rolesOfUser),
      ("userRoles", .relation rolesOfUser)]⟩

/-- What users are related to. -/
def itemView : RecordType := ⟨"ItemView", some ["id"], "t_item", none, none, []⟩

/-- The schema of users with their orders and roles. -/
def userSchema : EntitySchema :=
  ⟨"UserView", ⟨"t_user", [.literal ['t', '_', 'u', 's', 'e', 'r']]⟩,
    [⟨"id", "id", .column, .ordinal⟩, ⟨"orders", "orders", .relation ordersOfUser, .ordinal⟩,
      ⟨"roles", "roles", .relation rolesOfUser, .ordinal⟩,
      ⟨"userRoles", "userRoles", .relation rolesOfUser, .ordinal⟩],
    some ⟨"id", "id", false⟩⟩

set_option maxRecDepth 20000 in
theorem asEntity_userView : userView.asEntity .default = .ok userSchema := by cbv

end CriteriaSql
