/-
  The names that the stages of one lookup use for one property. The projection keeps a column of the
  view under the name of its property, and the filter tests the property that a field of the
  criteria names under the name of its column. Both stand in the document of the lookup and are
  about the same documents, and the two names are the same if and only if camel case is not mapped
  or the property has no capital (`lookup_keys_alike_iff`).
-/
import CriteriaSql.Proofs.Lookup.Contribution
import CriteriaSql.Proofs.Lookup.Stages
import CriteriaSql.Proofs.Name.Column
import CriteriaSql.Proofs.Name.Parts
import Mathlib

namespace CriteriaSql

/-! ## Names that offer several members -/

namespace FieldName

variable {name : String} {m : Member}

theorem mem_spelled {part : String} {parts : List String} (h : part ∈ parts) :
    part ∈ spelled parts ∨ capitalize part ∈ spelled parts := by
  cases parts with
  | nil => cases h
  | cons first rest =>
    rcases List.mem_cons.1 h with rfl | h
    · exact Or.inl List.mem_cons_self
    · exact Or.inr (List.mem_cons_of_mem _ (List.mem_map_of_mem h))

theorem count_le_capitalize (part : String) :
    part.toList.count 'O' ≤ (capitalize part).toList.count 'O' := by
  rw [capitalize, String.toList_ofList]
  cases part.toList with
  | nil => exact le_rfl
  | cons c cs =>
    rw [capitalizeChars, List.count_cons, List.count_cons]
    by_cases hc : c = 'O'
    · rw [hc]
      exact le_rfl
    · rw [if_neg (by simpa using hc)]
      omega

/-- A suffix has no `O`. -/
theorem count_fst_ofName (name : String) :
    (Operator.ofName name).1.toList.count 'O' = name.toList.count 'O' := by
  have hsuffix : (Operator.ofChars name.toList).2.suffix.toList.count 'O' = 0 := by
    cases (Operator.ofChars name.toList).2 <;> decide
  have hname := congrArg (List.count 'O') (Operator.ofChars_append name.toList)
  rw [List.count_append, hsuffix, Nat.add_zero] at hname
  rw [← hname]
  exact congrArg (List.count 'O') String.toList_ofList

/-- Where there are several parts, there is an `O` outside of each. -/
theorem count_lt_of_mem_spelledParts {name part : List Char}
    (hmore : 1 < (spelledParts name).length) (h : part ∈ spelledParts name) :
    part.count 'O' < name.count 'O' := by
  have hjoin := spelledParts_join name
  match hparts : spelledParts name with
  | [] => rw [hparts] at h; cases h
  | [_] => rw [hparts] at hmore; exact absurd hmore (lt_irrefl 1)
  | first :: next :: rest =>
    rw [hparts] at h
    rw [hparts, intercalate_or] at hjoin
    rw [← hjoin, List.count_append]
    rcases List.mem_cons.1 h with rfl | h
    · rw [List.flatMap_cons, List.count_append, List.count_cons_self]
      omega
    · have hwithin := (List.sublist_flatten_of_mem
        (List.mem_map_of_mem (f := fun p => 'O' :: 'r' :: p) h)).count_le 'O'
      rw [List.count_cons_self, List.count_cons_of_ne (by decide)] at hwithin
      rw [List.flatMap]
      omega

theorem exists_part_of_mem_members (h : m ∈ members name) :
    ∃ part ∈ alternatives name, m.base = (Operator.ofName part).1 := by
  obtain ⟨own, hown, rfl⟩ := List.mem_map.1 h
  obtain ⟨part, hpart, hread⟩ := List.mem_map.1 hown
  have hbase : own.base = (Operator.ofName part).1 := congrArg Member.base hread.symm
  refine ⟨part, hpart, ?_⟩
  split <;> exact hbase

theorem count_base_lt (hgroup : isGroup name = true) (h : m ∈ members name) :
    m.base.toList.count 'O' < name.toList.count 'O' := by
  have hmore : 1 < (spelledParts name.toList).length := by
    rw [← length_members]
    exact of_decide_eq_true hgroup
  obtain ⟨part, hpart, hbase⟩ := exists_part_of_mem_members h
  rw [hbase, count_fst_ofName]
  have hspelled := mem_spelled hpart
  simp only [spelled_alternatives, List.mem_map] at hspelled
  rcases hspelled with ⟨cs, hcs, rfl⟩ | ⟨cs, hcs, hcapital⟩
  · rw [String.toList_ofList]
    exact count_lt_of_mem_spelledParts hmore hcs
  · refine (count_le_capitalize part).trans_lt ?_
    rw [← hcapital, String.toList_ofList]
    exact count_lt_of_mem_spelledParts hmore hcs

/-- No member of several has the column that the name would have without its last suffix. -/
theorem column_base_ne (hgroup : isGroup name = true) (h : m ∈ members name)
    (mapCamelCase : Bool) : Naming.column mapCamelCase m.base ≠ (Operator.ofName name).1 := by
  intro hcolumn
  have hle := Naming.count_column_le mapCamelCase m.base (c := 'O') (by decide)
  rw [hcolumn, count_fst_ofName] at hle
  exact absurd (count_base_lt hgroup h) (Nat.not_lt_of_le hle)

end FieldName

/-! ## Tests of a clause -/

/-- The test asks what a member asks for, of the member's column. -/
def DocumentTest.Of (mapCamelCase : Bool) (m : FieldName.Member) (test : DocumentTest) : Prop :=
  test.operator = m.operator ∧ test.column = Naming.column mapCamelCase m.base

namespace FieldPlan

variable {plan : FieldPlan FilterForm} {value : FieldValue} {marks : Marks} {mapCamelCase : Bool}
  {field : String} {clause : FilterClause}

theorem toColumnTest_of_comparison {t : ColumnTest} {c : Comparison}
    (h : plan.comparison value t = .ok (some c)) : c.toColumnTest = t := by
  unfold comparison at h
  split at h
  · cases h
  · obtain ⟨operand, -, hc⟩ := map_eq_ok.1 h
    obtain ⟨operand, -, rfl⟩ := Option.map_eq_some_iff.1 hc
    rfl

/-- The tests of a group are those of some of its members, in their order. -/
theorem tests_of_group
    (hkind : plan.kind = .anyOf ((FieldName.members field).map fun m =>
      ⟨Naming.column mapCamelCase m.base, m.operator⟩))
    (h : plan.filterClause value = .ok (some clause)) :
    ∃ ms : List FieldName.Member, ms ≠ [] ∧ ms.Sublist (FieldName.members field) ∧
      List.Forall₂ (DocumentTest.Of mapCamelCase) ms clause.tests := by
  rw [filterClause_group hkind] at h
  obtain ⟨cs, hcs, hclause⟩ := map_eq_ok.1 h
  obtain ⟨ms, hms, hsame⟩ := List.sublist_map_iff.1
    (sublist_of_collect (fun t c hc => toColumnTest_of_comparison hc) hcs)
  have hpairs : List.Forall₂ (fun (m : FieldName.Member) (c : Comparison) =>
      (⟨Naming.column mapCamelCase m.base, m.operator⟩ : ColumnTest) = c.toColumnTest) ms cs := by
    have hequal := hsame.symm
    rwa [← List.forall₂_eq_eq_eq, List.forall₂_map_left_iff, List.forall₂_map_right_iff] at hequal
  have htests : clause.tests = cs.map Comparison.test ∧ cs ≠ [] := by
    cases cs with
    | nil => cases hclause
    | cons c cs =>
      cases hclause
      exact ⟨rfl, List.cons_ne_nil _ _⟩
  refine ⟨ms, fun hnil => ?_, hms, ?_⟩
  · rw [hnil, List.forall₂_nil_left_iff] at hpairs
    exact htests.2 hpairs
  · rw [htests.1, List.forall₂_map_right_iff]
    refine hpairs.imp fun m c hc => ⟨?_, ?_⟩
    · exact (congrArg ColumnTest.operator hc).symm
    · exact (congrArg ColumnTest.column hc).symm

/-- The tests of the clause of a field are those of some of the members of the field's name, in
    their order. -/
theorem tests_of_filterClause (hplan : CriteriaSchema.plan marks mapCamelCase field = .ok plan)
    (h : plan.filterClause value = .ok (some clause)) :
    ∃ ms : List FieldName.Member, ms ≠ [] ∧ ms.Sublist (FieldName.members field) ∧
      List.Forall₂ (DocumentTest.Of mapCamelCase) ms clause.tests := by
  obtain ⟨-, hcolumn, -, ⟨mark, -, hmarked⟩ | hnamed⟩ := CriteriaSchema.plan_spec hplan
  · cases hidle : value.isIdle with
    | true =>
      unfold filterClause at h
      rw [if_pos hidle] at h
      cases h
    | false =>
      rw [filterClause_of_not_compares hmarked.not_compares hidle] at h
      cases h
  · unfold CriteriaSchema.namedForm at hnamed
    dsimp only at hnamed
    split at hnamed
    next => exact tests_of_group hnamed h
    next hsingle =>
      have hmember : plan = plan.member ⟨plan.column, (Operator.ofName field).2⟩ := by
        unfold member
        rw [← hnamed]
      rw [hmember, filterClause_member] at h
      obtain ⟨found, hfound, hclause⟩ := map_eq_ok.1 h
      obtain ⟨c, rfl, rfl⟩ := Option.map_eq_some_iff.1 hclause
      have hc := toColumnTest_of_comparison hfound
      refine ⟨FieldName.members field, ?_, List.Sublist.refl _, ?_⟩
      · rw [FieldName.members_of_single hsingle]
        exact List.cons_ne_nil _ _
      · rw [FieldName.members_of_single hsingle]
        refine .cons ⟨congrArg ColumnTest.operator hc, ?_⟩ .nil
        exact (congrArg ColumnTest.column hc).trans hcolumn

/-- The tests of a clause are all of the column that the field's name without its suffix names,
    under that name, exactly where the name offers one member and its column keeps the name. -/
theorem tests_under_name_iff (hplan : CriteriaSchema.plan marks mapCamelCase field = .ok plan)
    (h : plan.filterClause value = .ok (some clause)) {name : String}
    (hname : (Operator.ofName field).1 = name) :
    (∀ test ∈ clause.tests, test.column = name) ↔
      FieldName.isGroup field = false ∧ Naming.Keeps mapCamelCase name := by
  obtain ⟨ms, hne, hms, htests⟩ := tests_of_filterClause hplan h
  obtain ⟨m, ms, rfl⟩ := List.exists_cons_of_ne_nil hne
  obtain ⟨test, tests, ⟨-, hcolumn⟩, hrest, hclause⟩ := List.forall₂_cons_left_iff.1 htests
  rw [hclause]
  cases hgroup : FieldName.isGroup field with
  | true =>
    refine iff_of_false (fun hall => ?_) nofun
    have hm : m ∈ FieldName.members field := hms.subset List.mem_cons_self
    refine FieldName.column_base_ne hgroup hm mapCamelCase ?_
    rw [← hcolumn, hall test List.mem_cons_self, hname]
  | false =>
    rw [FieldName.members_of_single (of_decide_eq_false hgroup), List.sublist_singleton] at hms
    obtain ⟨rfl, rfl⟩ := List.cons.inj (hms.resolve_left hne)
    rw [List.forall₂_nil_left_iff.1 hrest, List.forall_mem_singleton, hcolumn, hname,
      Naming.column_eq_self_iff, eq_self, true_and]

end FieldPlan

/-! ## Stages that find nothing -/

namespace Stage

mutual

/-- The stages that are no lookups: the stage itself, or those of the pipelines within it. -/
def leaves : Stage → List Stage
  | .lookup _ _ _ pipeline _ => leavesOf pipeline
  | stage => [stage]

/-- The stages of a pipeline that are no lookups, and those of the pipelines within it. -/
def leavesOf : List Stage → List Stage
  | [] => []
  | stage :: stages => stage.leaves ++ leavesOf stages

end

end Stage

/-- The stages that are read in a document and that are no lookups. -/
def Json.leaves (document : Json) : Option (List Stage) :=
  (Stage.ofJson? document).map Stage.leaves

theorem Stage.leaves_toJson (stage : Stage) : stage.toJson.leaves = some stage.leaves := by
  rw [Json.leaves, stage.ofJson?_toJson]
  rfl

namespace Lookup

variable {view : String} {after closing : List Stage} {path : ExpandedPath} {stage leaf : Stage}

theorem mem_leavesOf_onward {hops : List Hop} {last : List Stage} :
    leaf ∈ Stage.leavesOf (onward view after hops last) ↔
      leaf ∈ Stage.leavesOf last ∨ hops ≠ [] ∧ leaf ∈ Stage.leavesOf after := by
  induction hops with
  | nil => simp [onward]
  | cons hop hops ih =>
    rw [onward_cons, Stage.leavesOf, Stage.leaves, List.mem_append, ih]
    simp only [ne_eq, reduceCtorEq, not_false_eq_true, true_and]
    tauto

/-- Of the leaves that do not follow every lookup a path has those that close it. -/
theorem mem_leaves_overPath (h : overPath view after closing path = .ok stage)
    (hleaf : leaf ∉ Stage.leavesOf after) :
    leaf ∈ stage.leaves ↔ leaf ∈ Stage.leavesOf closing := by
  obtain ⟨hop, hops, -, rfl⟩ := overPath_eq_ok.1 h
  rw [Stage.leaves, mem_leavesOf_onward, Stage.leavesOf, Stage.leaves, Stage.leavesOf,
    List.nil_append]
  simp only [hleaf, and_false, or_false]

end Lookup

namespace Relation

variable {relation : Relation} {s : Settings} {field : String} {project stage : Stage}

theorem leaves_directLookup {domain : String} (hproject : project.leaves = [project])
    (h : relation.directLookup s domain field project = .ok stage) : stage.leaves = [project] := by
  unfold directLookup at h
  split at h
  · cases h
  all_goals
    cases h
    rw [Stage.leaves, Stage.leavesOf, hproject, Stage.leavesOf, List.append_nil]

theorem mem_leaves_pathLookup {filter : DocumentFilter} {leaf : Stage}
    (hproject : project.leaves = [project])
    (h : relation.pathLookup s filter field project = .ok stage)
    (hleaf : leaf ≠ .unwind field ∧ leaf ≠ .replaceRoot field) :
    leaf ∈ stage.leaves ↔ leaf = .matching filter.toJson ∨ leaf = project := by
  have hafter : leaf ∉ Stage.leavesOf [.unwind field, .replaceRoot field] := by
    simp [Stage.leavesOf, Stage.leaves, hleaf]
  rw [Lookup.mem_leaves_overPath h hafter]
  simp [Stage.leavesOf, Stage.leaves, hproject, hleaf]

end Relation

/-! ## Keys of a lookup -/

namespace RecordType

variable {owner view : RecordType} {s : Settings} {field : String} {viewSchema : EntitySchema}
  {stage : Stage} {q : Query}

/-- A lookup projects onto the columns of the view and nowhere else, and it filters by nothing but
    the query. -/
theorem leaves_lookup (hview : view.asEntity s = .ok viewSchema)
    (h : owner.lookup view s q field = .ok stage) :
    (∀ fields, .project fields ∈ stage.leaves ↔
        fields = (viewSchema.columns.map (·.name)).eraseDups) ∧
      ∀ document, .matching document ∈ stage.leaves →
        ∃ filter, q.filter s = .ok filter ∧ filter.toJson = document := by
  have hproject : viewSchema.projection.leaves = [viewSchema.projection] := rfl
  obtain ⟨schema, howner, relation, hrelation, -⟩ := exists_of_lookup h
  by_cases hone : relation.path.domains.length = 1
  · obtain ⟨domain, hdomain⟩ := List.length_eq_one_iff.1 hone
    rw [lookup_of_one howner hrelation hview hdomain] at h
    rw [Relation.leaves_directLookup hproject h]
    refine ⟨fun fields => ?_, fun filter hfilter => ?_⟩
    · rw [List.mem_singleton, EntitySchema.projection, Stage.project.injEq]
    · cases List.mem_singleton.1 hfilter
  · rw [lookup_of_ne_one howner hrelation hview hone] at h
    obtain ⟨filter, hfilter, h⟩ := bind_eq_ok.1 h
    refine ⟨fun fields => ?_, fun document hleaf => ?_⟩
    · have hother : Stage.project fields ≠ .unwind field ∧
        Stage.project fields ≠ .replaceRoot field := ⟨nofun, nofun⟩
      rw [Relation.mem_leaves_pathLookup hproject h hother, EntitySchema.projection,
        Stage.project.injEq]
      exact or_iff_right nofun
    · have hother : Stage.matching document ≠ .unwind field ∧
        Stage.matching document ≠ .replaceRoot field := ⟨nofun, nofun⟩
      rw [Relation.mem_leaves_pathLookup hproject h hother, Stage.matching.injEq,
        or_iff_left nofun] at hleaf
      exact ⟨filter, hfilter, hleaf.symm⟩

/-- The document of a lookup keeps the columns of its view under the names of their properties. Its
    filter has one clause for each field of the criteria that asks something, and the tests of the
    clause are about the members of the field's name, in their order. A test about a member that
    names a column of the view is a test of what the lookup keeps under that name if and only if
    camel case is not mapped or the name has no ASCII capital. If it is the whole name, without its
    suffix, that names the column, then the name has to offer just one member as well. -/
theorem lookup_keys_alike_iff (hview : view.asEntity s = .ok viewSchema)
    (h : owner.lookup view s q field = .ok stage) :
    ∃ leaves, stage.toJson.leaves = some leaves ∧
    (∀ keys, .project keys ∈ leaves ↔ keys = (viewSchema.columns.map (·.name)).eraseDups) ∧
    ∀ filter, .matching filter ∈ leaves →
      ∃ names record, q.type.fields = some names ∧ q.record = .ok record ∧
      ∃ found : List (FieldPlan FilterForm × FilterClause),
        filter.clauses = (found.map fun c => c.2.toJson) ∧
        ∀ c ∈ found, c.1.name ∈ names ∧
          c.1.filterClause (record.get c.1.name) = .ok (some c.2) ∧
          c.2.toJson.columns = c.2.tests.map (·.column) ∧
          (∃ ms : List FieldName.Member, ms.Sublist (FieldName.members c.1.name) ∧
            List.Forall₂ (fun m test => test.operator = m.operator ∧
              ∀ column ∈ viewSchema.columns, m.base = column.name →
                (test.column = column.name ↔ Naming.Keeps s.mapCamelCase column.name))
              ms c.2.tests) ∧
          ∀ column ∈ viewSchema.columns, (Operator.ofName c.1.name).1 = column.name →
            ((∀ key ∈ c.2.toJson.columns, key = column.name) ↔
              FieldName.isGroup c.1.name = false ∧
                Naming.Keeps s.mapCamelCase column.name) := by
  obtain ⟨hproject, hmatching⟩ := leaves_lookup hview h
  refine ⟨stage.leaves, stage.leaves_toJson, hproject, fun document hleaf => ?_⟩
  obtain ⟨filter, hfilter, rfl⟩ := hmatching document hleaf
  obtain ⟨schema, hschema, hrest⟩ := bind_eq_ok.1 hfilter
  obtain ⟨record, hrecord, -⟩ := bind_eq_ok.1 hrest
  obtain ⟨names, hnames⟩ := criteriaSchema_built hschema
  obtain ⟨schema, found, hb, hfound, hclauses⟩ :=
    Query.exists_filterClauses hnames.fields hrecord hfilter
  refine ⟨names, record, hnames.fields, hrecord, found, hclauses, fun c hc => ?_⟩
  obtain ⟨hmem, hclause⟩ := CriteriaSchema.filterClause_of_mem hfound hc
  obtain ⟨hname, hplan, -⟩ := hb.plan_of_mem hmem
  obtain ⟨ms, -, hms, htests⟩ := FieldPlan.tests_of_filterClause hplan hclause
  have hcolumns : c.2.toJson.columns = c.2.tests.map (·.column) :=
    FilterClause.columns_toJson (FieldPlan.readable_filterClause hclause)
  refine ⟨hname, hclause, hcolumns, ⟨ms, hms, htests.imp fun m test htest => ?_⟩,
    fun column _ hbase => ?_⟩
  · refine ⟨htest.1, fun column _ hbase => ?_⟩
    rw [htest.2, hbase, Naming.column_eq_self_iff]
  · rw [hcolumns, List.forall_mem_map]
    exact FieldPlan.tests_under_name_iff hplan hclause hbase

/-- Camel case is mapped. -/
def camelMapped : Settings := { Settings.default with mapCamelCase := true }

/-- What is shown of a user's roles. -/
def roleView : RecordType :=
  ⟨"RoleView", some ["id", "name", "roleName"], "t_role", none, none, []⟩

/-- A query for the roles that hold a part of a text. -/
def rolesLike (field part : String) : Query :=
  ⟨⟨"RoleQuery", some [field], "t_role", none, none, []⟩, .record [(field, .text part)], .all⟩

/-- The lookup of a user's roles with a column that holds `adm`. -/
def rolesByPart (column : String) : Stage :=
  .lookup "t_user_and_role" "_id" "userId"
    [.lookup "t_role" "roleId" "_id" [] "roles", .unwind "roles", .replaceRoot "roles",
      .matching (.field column (.field "$regex" (Json.text "adm"))),
      .project ["id", "name", "roleName"]]
    "roles"

set_option maxRecDepth 20000 in
/-- The roles are tested under the name under which they are kept. -/
theorem lookup_keys_alike_name :
    ∃ viewSchema, roleView.asEntity camelMapped = .ok viewSchema ∧
      userView.lookup roleView camelMapped (rolesLike "nameLike" "adm") "roles" =
        .ok (rolesByPart "name") ∧
      ∃ leaves, (rolesByPart "name").toJson.leaves = some leaves ∧
        (∀ keys, .project keys ∈ leaves ↔ keys = ["id", "name", "roleName"]) ∧
        .matching (.field "name" (.field "$regex" (Json.text "adm"))) ∈ leaves ∧
        ∀ filter, .matching filter ∈ leaves →
          ∀ clause ∈ filter.clauses, ∀ key ∈ clause.columns, key = "name" := by
  obtain ⟨viewSchema, hview, hcolumns⟩ : ∃ viewSchema,
      roleView.asEntity camelMapped = .ok viewSchema ∧
        viewSchema.columns.map (·.name) = ["id", "name", "roleName"] := ⟨_, by cbv, by cbv⟩
  have hlookup : userView.lookup roleView camelMapped (rolesLike "nameLike" "adm") "roles" =
      .ok (rolesByPart "name") := by cbv
  obtain ⟨leaves, hleaves, hproject, hmatching⟩ := lookup_keys_alike_iff hview hlookup
  have hkeys : ["id", "name", "roleName"].eraseDups = ["id", "name", "roleName"] := by decide
  rw [hcolumns, hkeys] at hproject
  have hfilter : Stage.matching (.field "name" (.field "$regex" (Json.text "adm"))) ∈ leaves := by
    obtain rfl := Option.some.inj ((rolesByPart "name").leaves_toJson.symm.trans hleaves)
    simp [rolesByPart, Stage.leaves, Stage.leavesOf]
  refine ⟨viewSchema, hview, hlookup, leaves, hleaves, hproject, hfilter,
    fun filter hfilter clause hclause => ?_⟩
  obtain ⟨names, record, hnames, -, found, hclauses, hfound⟩ := hmatching filter hfilter
  obtain rfl : ["nameLike"] = names := Option.some.inj hnames
  rw [hclauses] at hclause
  obtain ⟨c, hc, rfl⟩ := List.mem_map.1 hclause
  obtain ⟨hname, -, -, -, halike⟩ := hfound c hc
  obtain ⟨column, hcolumn, hcolumnName⟩ :
      ∃ column ∈ viewSchema.columns, column.name = "name" := by
    rw [← List.mem_map, hcolumns]
    decide
  have halike := halike column hcolumn
  rw [List.mem_singleton.1 hname] at halike
  have hbase : (Operator.ofName "nameLike").1 = "name" := by cbv
  have hsingle : FieldName.isGroup "nameLike" = false := by cbv
  have hkeeps : Naming.Keeps camelMapped.mapCamelCase "name" := Or.inr (by simp)
  rw [hcolumnName] at halike
  exact (halike hbase).2 ⟨hsingle, hkeeps⟩

set_option maxRecDepth 20000 in
/-- The roles are tested under a name under which nothing of them is kept. -/
theorem lookup_keys_differ_roleName :
    (Operator.ofName "roleNameLike").1 = "roleName" ∧
      userView.lookup roleView camelMapped (rolesLike "roleNameLike" "adm") "roles" =
        .ok (rolesByPart "role_name") ∧
      ∃ leaves, (rolesByPart "role_name").toJson.leaves = some leaves ∧
        .project ["id", "name", "roleName"] ∈ leaves ∧
        .matching (.field "role_name" (.field "$regex" (Json.text "adm"))) ∈ leaves := by
  refine ⟨by cbv, by cbv, _, (rolesByPart "role_name").leaves_toJson, ?_, ?_⟩ <;>
    simp [rolesByPart, Stage.leaves, Stage.leavesOf]

end RecordType

end CriteriaSql
