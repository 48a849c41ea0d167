/-
  What a document filter is made of. A field that its value asks something of gives a clause to the
  filter's document, or the filter is refused: no form of a field leaves such a value out. This
  holds of the fields that the schema of a type keeps. Fields whose values the table or the join
  clause of the type takes are not among them; they give no clause whatever their values are
  (`contributes_iff`).
-/
import CriteriaSql.Proofs.Alternatives
import CriteriaSql.Proofs.JoinClause
import CriteriaSql.Proofs.Restriction
import Mathlib

namespace CriteriaSql

/-! ## Names with one member -/

namespace FieldName

theorem length_members (name : String) :
    (members name).length = (spelledParts name.toList).length := by
  unfold members ownMembers alternatives
  cases spelledParts name.toList <;> simp

/-- A name that offers one member is read as a whole. -/
theorem members_of_single {name : String} (h : ¬ 1 < (members name).length) :
    members name = [⟨(Operator.ofName name).1, (Operator.ofName name).2⟩] := by
  obtain ⟨part, hparts⟩ : ∃ part, spelledParts name.toList = [part] := by
    rw [length_members] at h
    cases hname : name.toList with
    | nil => exact ⟨[], rfl⟩
    | cons c cs =>
      rw [hname, spelledParts, List.length_cons] at h
      have hrest : (consPart c (tailParts cs)).2 = [] := List.eq_nil_of_length_eq_zero (by omega)
      exact ⟨_, by rw [spelledParts, hrest]⟩
  -- the parts with `Or` between them are the name, so a single part is all of it
  have hpart : String.ofList part = name := by
    have hjoin := spelledParts_join name.toList
    rw [hparts] at hjoin
    exact String.toList_inj.1 (by simpa using hjoin)
  have hown : ownMembers name = [⟨(Operator.ofName name).1, (Operator.ofName name).2⟩] := by
    unfold ownMembers alternatives
    rw [hparts]
    simp [hpart]
  unfold members
  rw [hown]
  simp only [lastOperator, List.getLast?_singleton, List.map_singleton, ite_self]

theorem operator_of_single {name : String} (h : ¬ 1 < (members name).length) {m : Member}
    (hm : m ∈ members name) : m.operator = (Operator.ofName name).2 := by
  rw [members_of_single h, List.mem_singleton] at hm
  rw [hm]

/-- Whether a value asks something of a field: it is there and set, and it is not the empty
    collection where every member asks to be outside of it. -/
def Asks (name : String) (value : FieldValue) : Prop :=
  value.isIdle = false ∧ (value = .list [] → ∃ m ∈ members name, m.operator ≠ .noneOf)

/-- A single value asks something of every field. -/
theorem asks_scalar (name : String) (value : Scalar) : Asks name (.scalar value) :=
  ⟨rfl, nofun⟩

end FieldName

/-! ## Clauses of fields -/

/-- No mark gives a form that only compares. -/
theorem CriteriaSchema.MarkedForm.not_compares {field : String} {op : Operator} {mark : Mark}
    {form : FilterForm} (h : MarkedForm field op mark form) : ¬ form.Compares := by
  cases h <;> exact id

namespace FieldPlan

variable {plan : FieldPlan FilterForm} {value : FieldValue} {marks : Marks} {mapCamelCase : Bool}
  {field : String}

/-- A form that does more than compare refuses every value that is there and set. -/
theorem filterClause_of_not_compares (h : ¬ plan.kind.Compares) (hvalue : value.isIdle = false) :
    plan.filterClause value = .error (.valueShape plan.name .notInDocuments) := by
  unfold filterClause
  rw [if_neg (by simp [hvalue])]
  cases hkind : plan.kind with
  | simple | anyOf => exact absurd (hkind ▸ trivial) h
  | custom | subQuery | nested | domainPath => rfl

/-- The document of a clause that a field gives is read back. -/
theorem readable_filterClause {clause : FilterClause}
    (h : plan.filterClause value = .ok (some clause)) : clause.Readable := by
  by_cases hcompares : plan.kind.Compares
  · rw [filterClause_eq_clause hcompares] at h
    obtain ⟨c, hc, hclause⟩ := map_eq_ok.1 h
    obtain ⟨c, rfl, rfl⟩ := Option.map_eq_some_iff.1 hclause
    exact (of_clause hc).readable
  · cases hidle : value.isIdle with
    | true =>
      rw [filterClause, if_pos hidle] at h
      cases h
    | false =>
      rw [filterClause_of_not_compares hcompares hidle] at h
      cases h

/-- The form that a name gives to a field leaves out no value that asks something of the field. -/
theorem filterClause_named_ne_none
    (hkind : plan.kind = CriteriaSchema.namedForm mapCamelCase field (Operator.ofName field).2)
    (hasks : FieldName.Asks field value) : plan.filterClause value ≠ .ok none := by
  obtain ⟨hset, hempty⟩ := hasks
  intro hnone
  unfold CriteriaSchema.namedForm at hkind
  dsimp only at hkind
  split at hkind
  next hgroup =>
    -- members are left out together only for the empty collection, where each is a `NOT IN`
    have hmembers := (filterClause_group_eq_none_iff hkind).1 hnone
    simp only [List.forall_mem_map, comparison_eq_none_iff, hset, Bool.false_eq_true,
      false_or] at hmembers
    obtain ⟨first, hfirst⟩ :=
      List.exists_mem_of_length_pos (Nat.lt_of_succ_lt hgroup)
    obtain ⟨m, hm, hop⟩ := hempty (hmembers first hfirst).1
    exact hop (hmembers m hm).2
  next hsingle =>
    have hmember : plan = plan.member ⟨plan.column, (Operator.ofName field).2⟩ := by
      unfold member
      rw [← hkind]
    rw [hmember, filterClause_member, map_eq_ok] at hnone
    simp only [Option.map_eq_none_iff, exists_eq_right, comparison_eq_none_iff, hset,
      Bool.false_eq_true, false_or] at hnone
    obtain ⟨hvalue, hnoneOf⟩ := hnone
    obtain ⟨m, hm, hop⟩ := hempty hvalue
    exact hop ((FieldName.operator_of_single hsingle hm).trans hnoneOf)

/-- A value that asks something of a field gives a clause or is refused. -/
theorem filterClause_ne_none (hplan : CriteriaSchema.plan marks mapCamelCase field = .ok plan)
    (hasks : FieldName.Asks field value) : plan.filterClause value ≠ .ok none := by
  obtain ⟨-, -, -, ⟨mark, -, hmarked⟩ | hnamed⟩ := CriteriaSchema.plan_spec hplan
  · rw [filterClause_of_not_compares hmarked.not_compares hasks.1]
    exact nofun
  · exact filterClause_named_ne_none hnamed hasks

end FieldPlan

/-! ## Clauses of a schema -/

namespace CriteriaSchema

variable {schema : CriteriaSchema} {record : Record}
  {found : List (FieldPlan FilterForm × FilterClause)}

/-- The clauses of a filter, each with the plan that it comes from. -/
def filterClauses (schema : CriteriaSchema) (record : Record) :
    Except Error (List (FieldPlan FilterForm × FilterClause)) :=
  collect (fun plan => (plan.filterClause (record.get plan.name)).map (Option.map (Prod.mk plan)))
    schema.fields

theorem filter_eq_filterClauses (schema : CriteriaSchema) (record : Record) :
    schema.filter record = (schema.filterClauses record).map fun found => ⟨found.map Prod.snd⟩ := by
  have hpaired := collect_paired (fun plan => plan.filterClause (record.get plan.name)) id
    schema.fields
  have hplain :
      collect (fun plan => (plan.filterClause (record.get plan.name)).map (Option.map id))
          schema.fields =
        collect (fun plan => plan.filterClause (record.get plan.name)) schema.fields :=
    collect_congr fun plan _ => by rw [Option.map_id, Except.map_id, id]
  rw [filter_eq_collect, ← hplain, ← hpaired]
  unfold filterClauses
  cases collect (fun plan => (plan.filterClause (record.get plan.name)).map
    (Option.map (Prod.mk plan))) schema.fields <;> rfl

theorem eq_of_filterClause {plan : FieldPlan FilterForm}
    {c : FieldPlan FilterForm × FilterClause}
    (h : (plan.filterClause (record.get plan.name)).map (Option.map (Prod.mk plan)) =
      .ok (some c)) :
    c.1 = plan ∧ c.1.filterClause (record.get c.1.name) = .ok (some c.2) := by
  obtain ⟨clause, hclause, hc⟩ := map_eq_ok.1 h
  obtain ⟨clause, rfl, rfl⟩ := Option.map_eq_some_iff.1 hc
  exact ⟨rfl, hclause⟩

/-- A clause comes from a plan of the schema and from the value of its field. -/
theorem filterClause_of_mem (h : schema.filterClauses record = .ok found)
    {c : FieldPlan FilterForm × FilterClause} (hc : c ∈ found) :
    c.1 ∈ schema.fields ∧ c.1.filterClause (record.get c.1.name) = .ok (some c.2) := by
  obtain ⟨plan, hplan, hclause⟩ := exists_of_mem_collect h hc
  obtain ⟨rfl, hgiven⟩ := eq_of_filterClause hclause
  exact ⟨hplan, hgiven⟩

/-- Where a filter is built, no plan of the schema refuses its value. -/
theorem exists_filterClause (h : schema.filterClauses record = .ok found)
    {plan : FieldPlan FilterForm} (hplan : plan ∈ schema.fields) :
    ∃ clause, plan.filterClause (record.get plan.name) = .ok clause ∧
      (clause = none ∨ plan ∈ found.map Prod.fst) := by
  obtain hnone | ⟨c, hc, hclause⟩ := mem_collect_of_mem h hplan
  · obtain ⟨clause, hclause, hnone⟩ := map_eq_ok.1 hnone
    exact ⟨clause, hclause, Or.inl (Option.map_eq_none_iff.1 hnone)⟩
  · obtain ⟨rfl, hgiven⟩ := eq_of_filterClause hclause
    exact ⟨some c.2, hgiven, Or.inr (List.mem_map_of_mem hc)⟩

/-- A filter that is built has a clause of each field that the schema keeps and that its value
    asks something of, and none of the other fields. -/
theorem Built.contributes_iff_restricts {type : RecordType} {mapCamelCase : Bool}
    {names : List String} (h : schema.Built type mapCamelCase names)
    (hfound : schema.filterClauses record = .ok found) {field : String} (hfield : field ∈ names)
    (hasks : FieldName.Asks field (record.get field)) :
    field ∈ found.map (fun c => c.1.name) ↔
      restricts type.marks schema.table schema.join field = true := by
  constructor
  · intro hmem
    obtain ⟨c, hc, rfl⟩ := List.mem_map.1 hmem
    exact (h.plan_of_mem (filterClause_of_mem hfound hc).1).2.2
  · intro hkept
    obtain ⟨plan, hplan, hof⟩ := h.exists_plan hfield hkept
    obtain rfl := (plan_spec hof).1
    obtain ⟨clause, hclause, rfl | hmem⟩ := exists_filterClause hfound hplan
    · exact absurd hclause (FieldPlan.filterClause_ne_none hof hasks)
    · obtain ⟨c, hc, rfl⟩ := List.mem_map.1 hmem
      exact List.mem_map_of_mem (f := fun c => c.1.name) hc

end CriteriaSchema

/-! ## Filters of queries -/

namespace Query

variable {q : Query} {s : Settings}

theorem exists_filterClauses {names : List String} {record : Record} {filter : DocumentFilter}
    (hnames : q.type.fields = some names) (hrecord : q.record = .ok record)
    (h : q.filter s = .ok filter) :
    ∃ (schema : CriteriaSchema) (found : List (FieldPlan FilterForm × FilterClause)),
      schema.Built q.type s.mapCamelCase names ∧ schema.filterClauses record = .ok found ∧
      filter.toJson.clauses = found.map fun c => c.2.toJson := by
  obtain ⟨schema, hschema, h⟩ := bind_eq_ok.1 h
  obtain ⟨record', hrecord', h⟩ := bind_eq_ok.1 h
  obtain rfl := ok_unique hrecord hrecord'
  obtain ⟨names', hb⟩ := RecordType.criteriaSchema_built hschema
  obtain rfl : names = names' := Option.some.inj (hnames.symm.trans hb.fields)
  rw [CriteriaSchema.filter_eq_filterClauses, map_eq_ok] at h
  obtain ⟨found, hfound, rfl⟩ := h
  refine ⟨schema, found, hb, hfound, DocumentFilter.clauses_toJson_map fun c hc => ?_⟩
  exact FieldPlan.readable_filterClause (CriteriaSchema.filterClause_of_mem hfound hc).2

/-- The clauses of a filter's document come from the declared fields, in their order. Of the fields
    that are not ignored and that the value asks something of, those that neither template of the
    type takes have a clause, and those that a template takes have none. A field that a template
    does not take and whose form does more than compare makes every filter an error where it has a
    value. -/
theorem contributes_iff {names : List String} {record : Record}
    (hnames : q.type.fields = some names) (hrecord : q.record = .ok record) (s : Settings) :
    (∀ filter, q.filter s = .ok filter →
      ∃ found : List (FieldPlan FilterForm × FilterClause),
        filter.toJson.clauses = (found.map fun c => c.2.toJson) ∧
        (found.map fun c => c.1.name).Sublist names ∧
        (∀ c ∈ found, CriteriaSchema.plan q.type.marks s.mapCamelCase c.1.name = .ok c.1 ∧
          c.1.filterClause (record.get c.1.name) = .ok (some c.2)) ∧
        ∀ field ∈ names, q.type.marks.has field .ignore = false →
          FieldName.Asks field (record.get field) →
          (field ∈ found.map (fun c => c.1.name) ↔
            field ∉ q.type.tableFields ∧ field ∉ q.type.joinFields)) ∧
    ∀ field ∈ names, q.type.marks.has field .ignore = false →
      field ∉ q.type.tableFields → field ∉ q.type.joinFields →
      (record.get field).isIdle = false →
      ∀ plan, CriteriaSchema.plan q.type.marks s.mapCamelCase field = .ok plan →
        ¬ plan.kind.Compares → ∃ e, q.filter s = .error e := by
  constructor
  · intro filter hfilter
    obtain ⟨schema, found, hb, hfound, hclauses⟩ :=
      exists_filterClauses hnames hrecord hfilter
    refine ⟨found, hclauses, ?_, fun c hc => ?_, fun field hfield hnoticed hasks => ?_⟩
    · have horder := (sublist_of_collect (fun plan c hc =>
        (CriteriaSchema.eq_of_filterClause hc).1) hfound).map FieldPlan.name
      rw [hb.map_name_fields, List.map_map] at horder
      exact horder.trans List.filter_sublist
    · obtain ⟨hplan, hclause⟩ := CriteriaSchema.filterClause_of_mem hfound hc
      exact ⟨(hb.plan_of_mem hplan).2.1, hclause⟩
    · rw [hb.contributes_iff_restricts hfound hfield hasks, hb.restricts_iff]
      exact and_iff_right hnoticed
  · intro field hfield hnoticed htable hjoin hset plan hplan hmore
    cases hfilter : q.filter s with
    | error e => exact ⟨e, rfl⟩
    | ok filter =>
      obtain ⟨schema, found, hb, hfound, -⟩ := exists_filterClauses hnames hrecord hfilter
      obtain ⟨plan', hmem, hplan'⟩ :=
        hb.exists_plan hfield (hb.restricts_iff.2 ⟨hnoticed, htable, hjoin⟩)
      obtain rfl := ok_unique hplan hplan'
      obtain rfl := (CriteriaSchema.plan_spec hplan).1
      obtain ⟨clause, hclause, -⟩ := CriteriaSchema.exists_filterClause hfound hmem
      rw [FieldPlan.filterClause_of_not_compares hmore hset] at hclause
      cases hclause

set_option maxRecDepth 20000 in
/-- Of a user's role and a part of the name, the role is taken by the join clause. -/
theorem contributes_ofRoleNamed :
    let q := ofRoleNamed.withJoin "JOIN r ON r.id = #\x7broleId\x7d"
    ∃ filter, q.filter .default = .ok filter ∧
      filter.toJson = .field "name" (.field "$regex" (Json.text "x")) ∧
      ∃ found : List (FieldPlan FilterForm × FilterClause),
        filter.toJson.clauses = (found.map fun c => c.2.toJson) ∧
          "nameLike" ∈ found.map (fun c => c.1.name) ∧
          "roleId" ∉ found.map (fun c => c.1.name) := by
  intro q
  let record : Record :=
    ⟨"UserQuery", [("roleId", .scalar (.int 1)), ("nameLike", .scalar (.text "x"))]⟩
  have hnames : q.type.fields = some ["roleId", "nameLike"] := rfl
  have hrecord : q.record = .ok record := by cbv
  have htable : q.type.tableFields = [] := by cbv
  have hjoin : q.type.joinFields = ["roleId"] := by cbv
  obtain ⟨filter, hfilter, hdocument⟩ : ∃ filter, q.filter .default = .ok filter ∧
      filter.toJson = .field "name" (.field "$regex" (Json.text "x")) := ⟨_, by cbv, by cbv⟩
  obtain ⟨found, hclauses, -, -, hiff⟩ :=
    (contributes_iff hnames hrecord .default).1 filter hfilter
  rw [htable, hjoin] at hiff
  have hname : FieldName.Asks "nameLike" (record.get "nameLike") := FieldName.asks_scalar _ _
  have hrole : FieldName.Asks "roleId" (record.get "roleId") := FieldName.asks_scalar _ _
  refine ⟨filter, hfilter, hdocument, found, hclauses, ?_, ?_⟩
  · exact (hiff "nameLike" (by decide) (by decide) hname).2 (by decide)
  · intro hmem
    exact ((hiff "roleId" (by decide) (by decide) hrole).1 hmem).2 (by decide)

set_option maxRecDepth 20000 in
/-- The role is asked for, and the filter is that of every user. -/
theorem filter_ofRole_empty :
    ∃ record, ofRole.record = .ok record ∧ ofRole.type.fields = some ["roleId"] ∧
      ofRole.type.marks.has "roleId" .ignore = false ∧
      FieldName.Asks "roleId" (record.get "roleId") ∧
      (ofRole.filter .default).map DocumentFilter.toJson = .ok (.object []) :=
  ⟨⟨"UserQuery", [("roleId", .scalar (.int 1))]⟩, by cbv, rfl, by decide,
    FieldName.asks_scalar _ _, by cbv⟩

end Query

end CriteriaSql
