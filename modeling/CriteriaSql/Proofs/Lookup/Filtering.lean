/-
  The filter of a lookup. A lookup over several domains finds documents of the target table that
  have passed the document of the query's filter. A lookup over one domain finds all documents that
  refer to their owner, or that are referred to by it: it is the same for every query, and it is
  found for queries that have no filter at all (`lookup_filtered_iff`).
-/
import CriteriaSql.Proofs.Lookup.FilterDocument
import CriteriaSql.Proofs.Lookup.Stages

namespace CriteriaSql

/-- The table at the end of a relation's path, read in the direction of its lookup. -/
def Relation.lookupTarget (relation : Relation) (s : Settings) (field : String) : String :=
  (relation.path.expand s (relation.isReversed field)).targetTable

section Relation

variable {relation : Relation} {s : Settings} {field domain : String} {schema : EntitySchema}
  {stage : Stage} {filter : DocumentFilter}

/-- A lookup over one domain finds documents that have passed no filter. -/
theorem Relation.found_directLookup (hone : relation.path.domains = [domain])
    (h : relation.directLookup s domain field schema.projection = .ok stage) :
    stage.toJson.found = some ⟨relation.lookupTarget s field, []⟩ := by
  have htarget : relation.lookupTarget s field = s.table domain := by
    unfold lookupTarget DomainPath.expand
    rw [hone]
    cases relation.isReversed field <;> rfl
  rw [stage.found_toJson, htarget]
  unfold directLookup at h
  split at h <;> cases h <;> rfl

/-- A lookup over several domains finds documents that have passed the filter. -/
theorem Relation.found_pathLookup
    (h : relation.pathLookup s filter field schema.projection = .ok stage) :
    stage.toJson.found = some ⟨relation.lookupTarget s field, [filter.toJson]⟩ := by
  rw [stage.found_toJson]
  refine Lookup.found_overPath (Lookup.enters_unwind field) (fun flow hview => ?_) h
  rw [Stage.run_append, Lookup.enters_unwind field flow _ hview]
  rfl

end Relation

namespace RecordType

variable {owner view : RecordType} {s : Settings} {field : String} {schema : EntitySchema}
  {relation : Relation} {stage : Stage} {q : Query}

/-- What a lookup finds has passed the document of the query's filter, if that is not empty, exactly
    where the relation is over several domains or the document is empty. Over one domain nothing is
    filtered, and the lookup is the same for every query. -/
theorem lookup_filtered_iff (howner : owner.asEntity s = .ok schema)
    (hrelation : schema.relation field = .ok relation)
    (h : owner.lookup view s q field = .ok stage) :
    ((∃ filter, q.filter s = .ok filter ∧ (filter.toJson ≠ .object [] →
        stage.toJson.found = some ⟨relation.lookupTarget s field, [filter.toJson]⟩)) ↔
      relation.path.domains.length ≠ 1 ∨
        ∃ filter, q.filter s = .ok filter ∧ filter.toJson = .object []) ∧
    (relation.path.domains.length = 1 →
      stage.toJson.found = some ⟨relation.lookupTarget s field, []⟩ ∧
      ∀ other : Query, owner.lookup view s other field = .ok stage) := by
  obtain ⟨schema', howner', relation', hrelation', viewSchema, hview⟩ := exists_of_lookup h
  by_cases hlength : relation.path.domains.length = 1
  · obtain ⟨domain, hone⟩ := List.length_eq_one_iff.1 hlength
    have hsame := lookup_of_one howner hrelation hview hone
    have hfound : stage.toJson.found = some ⟨relation.lookupTarget s field, []⟩ :=
      Relation.found_directLookup hone ((hsame q).symm.trans h)
    refine ⟨⟨?_, ?_⟩, fun _ => ⟨hfound, fun other => ?_⟩⟩
    · rintro ⟨filter, hfilter, hpassed⟩
      refine Or.inr ⟨filter, hfilter, ?_⟩
      by_contra hclauses
      have hnone := hfound.symm.trans (hpassed hclauses)
      simp at hnone
    · rintro (hlong | ⟨filter, hfilter, hclauses⟩)
      · exact absurd hlength hlong
      · exact ⟨filter, hfilter, fun hne => absurd hclauses hne⟩
    · rw [hsame other, ← hsame q, h]
  · refine ⟨⟨fun _ => Or.inl hlength, fun _ => ?_⟩, fun hone => absurd hone hlength⟩
    rw [lookup_of_ne_one howner hrelation hview hlength] at h
    obtain ⟨filter, hfilter, hstage⟩ := bind_eq_ok.1 h
    exact ⟨filter, hfilter, fun _ => Relation.found_pathLookup hstage⟩

/-- A query for orders of more than a given amount. -/
def ofAmount (amount : Int) : Query :=
  ⟨⟨"OrderQuery", some ["amountGt"], "t_order", none, none, []⟩,
    .record [("amountGt", .int ⟨true, .w64⟩ amount)], .all⟩

/-- The document of that query's filter. -/
def amountOver (amount : Int) : Json := .field "amount" (.field "$gt" (Json.int amount))

set_option maxRecDepth 20000 in
theorem lookup_roles_filtered :
    userView.asEntity .default = .ok userSchema ∧
    userSchema.relation "roles" = .ok rolesOfUser ∧
    ∃ stage filter, userView.lookup itemView .default (ofAmount 10) "roles" = .ok stage ∧
      (ofAmount 10).filter .default = .ok filter ∧ filter.toJson = amountOver 10 ∧
      stage.toJson.found = some ⟨"t_role", [amountOver 10]⟩ := by
  have hrelation : userSchema.relation "roles" = .ok rolesOfUser := by cbv
  have htarget : rolesOfUser.lookupTarget .default "roles" = "t_role" := by cbv
  have hdocument : ((ofAmount 10).filter .default).map DocumentFilter.toJson =
      .ok (amountOver 10) := by cbv
  obtain ⟨stage, hstage⟩ : ∃ stage,
      userView.lookup itemView .default (ofAmount 10) "roles" = .ok stage := ⟨_, by cbv⟩
  obtain ⟨filter, hfilter, hfound⟩ :=
    (lookup_filtered_iff asEntity_userView hrelation hstage).1.2 (Or.inl (by decide))
  rw [hfilter] at hdocument
  have hamount : filter.toJson = amountOver 10 := Except.ok.inj hdocument
  rw [htarget, hamount] at hfound
  have hasks : amountOver 10 ≠ .object [] := by
    intro h
    cases h
  exact ⟨asEntity_userView, hrelation, stage, filter, hstage, hfilter, hamount, hfound hasks⟩

set_option maxRecDepth 20000 in
/-- The lookup of a user's orders keeps those of a smaller amount. -/
theorem lookup_orders_unfiltered :
    ((ofAmount 10).filter .default).map DocumentFilter.toJson = .ok (amountOver 10) ∧
      (userView.lookup itemView .default (ofAmount 10) "orders").map Stage.toJson =
        .ok (.field "$lookup" (.object [("from", Json.text "t_order"),
          ("localField", Json.text "_id"), ("foreignField", Json.text "userId"),
          ("pipeline", .array [.field "$project" (.field "id" (Json.int 1))]),
          ("as", Json.text "orders")])) := by
  constructor <;> cbv

end RecordType

end CriteriaSql
