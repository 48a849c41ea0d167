/-
  What schemas are made from: a schema that is built has parsed templates over declared fields, and
  each of its plans comes from a declared field and the marks on it. A criteria schema has a plan of
  each declared field that is not ignored and that no template takes.
-/
import CriteriaSql.Proofs.Outcome
import CriteriaSql.Schema.Criteria
import CriteriaSql.Schema.Entity

namespace CriteriaSql

/-! ## Templates -/

namespace Template

variable {kind : TemplateKind} {source : String} {names : List String} {t : Template}

theorem parse_eq_ok :
    parse kind source = .ok t ↔
      (cut kind source.toList).any (isUnterminated kind) = false ∧
        ⟨source, cut kind source.toList⟩ = t := by
  unfold parse
  dsimp only
  split
  next h => simp [h]
  next h => simp [h]

theorem parseOver_eq_ok :
    parseOver kind names source = .ok t ↔
      parse kind source = .ok t ∧ ∀ field ∈ t.fieldNames, field ∈ names := by
  unfold parseOver
  rw [bind_eq_ok]
  constructor
  · intro ⟨u, hu, h⟩
    split at h
    · cases h
    next hf =>
      rw [pure_eq_ok] at h
      subst h
      refine ⟨hu, fun field hm => ?_⟩
      have := List.find?_eq_none.1 hf field hm
      simpa using this
  · intro ⟨hp, hn⟩
    refine ⟨t, hp, ?_⟩
    rw [List.find?_eq_none.2 fun field hm => by simpa using hn field hm]
    rfl

theorem segments_of_parse (h : parse kind source = .ok t) :
    t.segments = cut kind source.toList := by
  obtain ⟨-, rfl⟩ := parse_eq_ok.1 h
  rfl

end Template

/-- The fields that a text names as a template. -/
def templateFields (kind : TemplateKind) (source : String) : List String :=
  (Template.cut kind source.toList).filterMap Segment.field?

/-- The fields whose values make the table of a type. -/
def RecordType.tableFields (type : RecordType) : List String := templateFields .table type.table

/-- The fields whose values the join clause of a type takes. -/
def RecordType.joinFields (type : RecordType) : List String :=
  type.join.elim [] (templateFields .join)

theorem Template.fieldNames_of_parse {kind : TemplateKind} {source : String} {t : Template}
    (h : parse kind source = .ok t) : t.fieldNames = templateFields kind source := by
  unfold Template.fieldNames templateFields
  rw [segments_of_parse h]

/-- A template without fields is its own text, whatever the values. -/
theorem Template.render_of_static {kind : TemplateKind} {source : String} {t : Template}
    (h : parse kind source = .ok t) (hstatic : templateFields kind source = []) (record : Record) :
    t.render record = .ok source := by
  have hparts : ∀ segments : List Segment, segments.filterMap Segment.field? = [] →
      segments.mapM (t.renderSegment record) =
        .ok (segments.map fun segment => String.ofList (written kind segment)) := by
    intro segments hnone
    induction segments with
    | nil => rfl
    | cons segment segments ih =>
      cases segment with
      | literal text =>
        rw [List.mapM_cons, ih hnone]
        rfl
      | field name => cases hnone
  unfold templateFields at hstatic
  rw [render, segments_of_parse h, hparts _ hstatic]
  refine congrArg Except.ok (String.toList_inj.1 ?_)
  rw [String.toList_join, List.flatMap_map]
  simpa using written_cut kind source.toList

/-! ## Criteria -/

theorem RecordType.fieldNames_eq_ok {type : RecordType} {names : List String} :
    type.fieldNames = .ok names ↔ type.fields = some names := by
  unfold fieldNames
  cases type.fields <;> simp

namespace CriteriaSchema

/-- A mark that gives a form to a field, with the check that the form has passed. -/
inductive MarkedForm (field : String) (op : Operator) : Mark → FilterForm → Prop
  | custom {template : String} : MarkedForm field op (.queryField template) (.custom template)
  | subQuery {select source : String} :
      MarkedForm field op (.subQuery select source) (.subQuery select source op)
  | nested {queries : NestedQueries} (h : queries.validate field = .ok ()) :
      MarkedForm field op (.nested queries) (.nested queries op)
  | domainPath {path : DomainPath} (h : path.validate field 2 = .ok ()) :
      MarkedForm field op (.domainPath path) (.domainPath path op)

theorem markedForm_of_eq {field : String} {op : Operator} {mark : Mark} {form : FilterForm}
    (h : markedForm? field op mark = some (.ok form)) : MarkedForm field op mark form := by
  unfold markedForm? at h
  split at h
  · cases h
    exact .custom
  · cases h
    exact .subQuery
  · rw [Option.some.injEq, map_eq_ok] at h
    obtain ⟨u, hu, rfl⟩ := h
    exact .nested hu
  · rw [Option.some.injEq, map_eq_ok] at h
    obtain ⟨u, hu, rfl⟩ := h
    exact .domainPath hu
  · cases h

theorem plan_eq_bind (marks : Marks) (mapCamelCase : Bool) (field : String) :
    plan marks mapCamelCase field =
      (((marks.ofField field).findSome? (markedForm? field (Operator.ofName field).2)).getD
        (.ok (namedForm mapCamelCase field (Operator.ofName field).2)) >>= fun form =>
      pure ⟨field, Naming.column mapCamelCase (Operator.ofName field).1, form,
        marks.encoding field⟩) := rfl

/-- A plan has the name of its field and the column of its base, and its form is that of a mark on
    the field or that of the name. -/
theorem plan_spec {marks : Marks} {mapCamelCase : Bool} {field : String}
    {p : FieldPlan FilterForm} (h : plan marks mapCamelCase field = .ok p) :
    p.name = field ∧ p.column = Naming.column mapCamelCase (Operator.ofName field).1 ∧
      p.encoding = marks.encoding field ∧
      ((∃ mark, (field, mark) ∈ marks ∧
          MarkedForm field (Operator.ofName field).2 mark p.kind) ∨
        p.kind = namedForm mapCamelCase field (Operator.ofName field).2) := by
  rw [plan_eq_bind] at h
  obtain ⟨form, hf, hp⟩ := bind_eq_ok.1 h
  rw [pure_eq_ok] at hp
  subst hp
  refine ⟨rfl, rfl, rfl, ?_⟩
  cases hm : (marks.ofField field).findSome? (markedForm? field (Operator.ofName field).2) with
  | none =>
    rw [hm, Option.getD_none, Except.ok.injEq] at hf
    exact Or.inr hf.symm
  | some result =>
    rw [hm, Option.getD_some] at hf
    subst hf
    obtain ⟨mark, hmem, hmark⟩ := List.exists_of_findSome?_eq_some hm
    obtain ⟨entry, hentry, rfl⟩ := List.mem_map.1 hmem
    obtain ⟨hin, hname⟩ := List.mem_filter.1 hentry
    rw [beq_iff_eq] at hname
    exact Or.inl ⟨entry.2, hname ▸ hin, markedForm_of_eq hmark⟩

/-- A form that compares neither one column nor several comes from a mark. -/
theorem exists_mark_of_plan {marks : Marks} {mapCamelCase : Bool} {field : String}
    {p : FieldPlan FilterForm} (h : plan marks mapCamelCase field = .ok p)
    (hsimple : ∀ op, p.kind ≠ .simple op) (hanyOf : ∀ tests, p.kind ≠ .anyOf tests) :
    ∃ mark, (field, mark) ∈ marks ∧ MarkedForm field (Operator.ofName field).2 mark p.kind := by
  obtain ⟨-, -, -, hmarked | hnamed⟩ := plan_spec h
  · exact hmarked
  · unfold namedForm at hnamed
    dsimp only at hnamed
    split at hnamed
    · exact absurd hnamed (hanyOf _)
    · exact absurd hnamed (hsimple _)

end CriteriaSchema

/-- The parts of a criteria schema that is built. -/
structure CriteriaSchema.Built (type : RecordType) (mapCamelCase : Bool) (names : List String)
    (schema : CriteriaSchema) : Prop where
  fields : type.fields = some names
  table : Template.parse .table type.table = .ok schema.table
  tableNames : ∀ field ∈ schema.table.fieldNames, field ∈ names
  join : type.join.mapM (Template.parse .join) = .ok schema.join
  groupBy : schema.groupBy = (type.groupBy.map Text.trim).filter (· != "")
  plans : (names.filter (restricts type.marks schema.table schema.join)).mapM
    (plan type.marks mapCamelCase) = .ok schema.fields

theorem RecordType.criteriaSchema_built {type : RecordType} {mapCamelCase : Bool}
    {schema : CriteriaSchema} (h : type.criteriaSchema mapCamelCase = .ok schema) :
    ∃ names, schema.Built type mapCamelCase names := by
  simp only [criteriaSchema, bind_eq_ok, pure_eq_ok] at h
  obtain ⟨names, hn, _, -, table, ht, join, hj, plans, hp, rfl⟩ := h
  rw [fieldNames_eq_ok] at hn
  rw [Template.parseOver_eq_ok] at ht
  refine ⟨names, hn, ht.1, ht.2, ?_, rfl, hp⟩
  rw [option_mapM_eq_ok] at hj ⊢
  rcases hj with hj | ⟨a, b, ha, hb, hab⟩
  · exact Or.inl hj
  · exact Or.inr ⟨a, b, ha, hb, (Template.parseOver_eq_ok.1 hab).1⟩

namespace CriteriaSchema.Built

variable {type : RecordType} {mapCamelCase : Bool} {names : List String} {schema : CriteriaSchema}

/-- The fields that a schema keeps are those that are not ignored and that neither template
    takes. -/
theorem restricts_iff (h : schema.Built type mapCamelCase names) {field : String} :
    restricts type.marks schema.table schema.join field = true ↔
      type.marks.has field .ignore = false ∧ field ∉ type.tableFields ∧
        field ∉ type.joinFields := by
  have htable : schema.table.fieldNames = type.tableFields :=
    Template.fieldNames_of_parse h.table
  have htaken : schema.table.references field = true ↔ field ∈ type.tableFields := by
    rw [Template.references, htable, List.contains_iff_mem]
  have hjoined : schema.join.any (·.references field) = true ↔ field ∈ type.joinFields := by
    unfold RecordType.joinFields
    obtain ⟨hnone, hjoin⟩ | ⟨source, t, hsource, hjoin, hparse⟩ := option_mapM_eq_ok.1 h.join
    · simp [hnone, hjoin]
    · simp [hsource, hjoin, Template.references, Template.fieldNames_of_parse hparse]
  rw [restricts, Bool.not_eq_true', Bool.or_eq_false_iff, Bool.or_eq_false_iff, ← htaken,
    ← hjoined, Bool.not_eq_true, Bool.not_eq_true, and_assoc]

/-- The plans of a schema are of the declared fields that it keeps, in their order. -/
theorem map_name_fields (h : schema.Built type mapCamelCase names) :
    schema.fields.map FieldPlan.name =
      names.filter (restricts type.marks schema.table schema.join) := by
  have hplans := mapM_eq_ok.1 h.plans
  have hnames := hplans.imp fun field plan hplan => (plan_spec hplan).1
  rw [← List.forall₂_eq_eq_eq, List.forall₂_map_left_iff]
  exact hnames.flip

/-- A plan of a schema is that of its field, which the schema keeps. -/
theorem plan_of_mem (h : schema.Built type mapCamelCase names) {plan : FieldPlan FilterForm}
    (hplan : plan ∈ schema.fields) :
    plan.name ∈ names ∧ CriteriaSchema.plan type.marks mapCamelCase plan.name = .ok plan ∧
      restricts type.marks schema.table schema.join plan.name = true := by
  obtain ⟨field, hfield, hof⟩ := exists_of_mem_mapM h.plans hplan
  obtain rfl := (plan_spec hof).1
  obtain ⟨hname, hkept⟩ := List.mem_filter.1 hfield
  exact ⟨hname, hof, hkept⟩

theorem exists_plan (h : schema.Built type mapCamelCase names) {field : String}
    (hfield : field ∈ names)
    (hkept : restricts type.marks schema.table schema.join field = true) :
    ∃ plan ∈ schema.fields, CriteriaSchema.plan type.marks mapCamelCase field = .ok plan :=
  exists_mem_of_mapM h.plans (List.mem_filter.2 ⟨hfield, hkept⟩)

theorem exists_field (h : schema.Built type mapCamelCase names) {p : FieldPlan FilterForm}
    (hp : p ∈ schema.fields) :
    ∃ field ∈ names, CriteriaSchema.plan type.marks mapCamelCase field = .ok p :=
  ⟨p.name, (h.plan_of_mem hp).1, (h.plan_of_mem hp).2.1⟩

end CriteriaSchema.Built

namespace CriteriaSchema.Built

variable {type : RecordType} {mapCamelCase : Bool} {names : List String} {schema : CriteriaSchema}
  {plan : FieldPlan FilterForm}

/-- A condition as written is that of a mark. -/
theorem mem_marks_of_custom (h : schema.Built type mapCamelCase names)
    (hplan : plan ∈ schema.fields) {template : String} (hkind : plan.kind = .custom template) :
    (plan.name, .queryField template) ∈ type.marks := by
  obtain ⟨mark, hmark, hform⟩ :=
    exists_mark_of_plan (h.plan_of_mem hplan).2.1 (by simp [hkind]) (by simp [hkind])
  rw [hkind] at hform
  cases hform
  exact hmark

/-- The path of a path filter was checked. -/
theorem validate_of_domainPath (h : schema.Built type mapCamelCase names)
    (hplan : plan ∈ schema.fields) {path : DomainPath} {op : Operator}
    (hkind : plan.kind = .domainPath path op) : path.validate plan.name 2 = .ok () := by
  obtain ⟨mark, -, hform⟩ :=
    exists_mark_of_plan (h.plan_of_mem hplan).2.1 (by simp [hkind]) (by simp [hkind])
  rw [hkind] at hform
  cases hform with
  | domainPath hvalid => exact hvalid

end CriteriaSchema.Built

/-! ## Entities -/

namespace EntitySchema

/-- A plan has the name and the column of its field, and a relation comes from a mark on the field
    whose path was checked. -/
theorem plan_spec {marks : Marks} {mapCamelCase : Bool} {field : String}
    {p : FieldPlan EntityRole} (h : plan marks mapCamelCase field = .ok p) :
    p.name = field ∧ p.column = Naming.column mapCamelCase field ∧
      p.encoding = marks.encoding field ∧
      (p.kind = .column ∨ ∃ relation, p.kind = .relation relation ∧
        (field, Mark.relation relation) ∈ marks ∧ relation.path.validate field 1 = .ok ()) := by
  obtain ⟨r, hr, hp⟩ := bind_eq_ok.1 h
  rw [pure_eq_ok] at hp
  subst hp
  refine ⟨rfl, rfl, rfl, ?_⟩
  unfold role at hr
  split at hr
  next relation hf =>
    rw [map_eq_ok] at hr
    obtain ⟨u, hu, rfl⟩ := hr
    obtain ⟨mark, hmem, hmark⟩ := List.exists_of_findSome?_eq_some hf
    obtain ⟨entry, hentry, rfl⟩ := List.mem_map.1 hmem
    obtain ⟨hin, hname⟩ := List.mem_filter.1 hentry
    rw [beq_iff_eq] at hname
    obtain ⟨name, mark⟩ := entry
    cases mark <;> cases hmark
    exact Or.inr ⟨relation, rfl, hname ▸ hin, hu⟩
  next =>
    cases hr
    exact Or.inl rfl

theorem resolveId_spec {type : RecordType} {names : List String} {mapCamelCase : Bool}
    {id : IdPlan} (h : resolveId type names mapCamelCase = .ok (some id)) :
    id.name ∈ names ∧ id.column = Naming.column mapCamelCase id.name := by
  unfold resolveId at h
  dsimp only at h
  split at h
  · cases h
  next =>
    rw [Except.ok.injEq, Option.map_eq_some_iff] at h
    obtain ⟨name, hname, rfl⟩ := h
    refine ⟨?_, rfl⟩
    rw [Option.or_eq_some_iff] at hname
    rcases hname with hhead | ⟨-, hfind⟩
    · exact (List.mem_filter.1 (List.mem_of_head? hhead)).1
    · exact List.mem_of_find?_eq_some hfind

end EntitySchema

/-- The parts of an entity schema that is built. -/
structure EntitySchema.Built (type : RecordType) (mapCamelCase : Bool) (names : List String)
    (schema : EntitySchema) : Prop where
  fields : type.fields = some names
  table : Template.parse .table type.table = .ok schema.table
  tableNames : ∀ field ∈ schema.table.fieldNames, field ∈ names
  plans : (names.filter (stores type.marks schema.table)).mapM (plan type.marks mapCamelCase) =
    .ok schema.fields
  id : resolveId type names mapCamelCase = .ok schema.id

theorem RecordType.entitySchema_built {type : RecordType} {mapCamelCase : Bool}
    {schema : EntitySchema} (h : type.entitySchema mapCamelCase = .ok schema) :
    ∃ names, schema.Built type mapCamelCase names := by
  simp only [entitySchema, bind_eq_ok, pure_eq_ok] at h
  obtain ⟨names, hn, _, -, table, ht, plans, hp, id, hid, rfl⟩ := h
  rw [fieldNames_eq_ok] at hn
  rw [Template.parseOver_eq_ok] at ht
  exact ⟨names, hn, ht.1, ht.2, hp, hid⟩

theorem EntitySchema.Built.exists_field {type : RecordType} {mapCamelCase : Bool}
    {names : List String} {schema : EntitySchema} (h : schema.Built type mapCamelCase names)
    {p : FieldPlan EntityRole} (hp : p ∈ schema.fields) :
    ∃ field ∈ names, EntitySchema.plan type.marks mapCamelCase field = .ok p := by
  obtain ⟨field, hm, hf⟩ := exists_of_mem_mapM h.plans hp
  exact ⟨field, (List.mem_filter.1 hm).1, hf⟩

/-- A plan of a schema has the column and the encoding of the field that it is named for. -/
theorem EntitySchema.Built.plan_of_mem {type : RecordType} {mapCamelCase : Bool}
    {names : List String} {schema : EntitySchema} (h : schema.Built type mapCamelCase names)
    {p : FieldPlan EntityRole} (hp : p ∈ schema.fields) :
    p.column = Naming.column mapCamelCase p.name ∧ p.encoding = type.marks.encoding p.name := by
  obtain ⟨field, -, hfield⟩ := h.exists_field hp
  obtain ⟨rfl, hcolumn, hencoding, -⟩ := EntitySchema.plan_spec hfield
  exact ⟨hcolumn, hencoding⟩

/-- A plan of a schema is found by the name of its field. -/
theorem EntitySchema.Built.field?_name {type : RecordType} {mapCamelCase : Bool}
    {names : List String} {schema : EntitySchema} (h : schema.Built type mapCamelCase names)
    {p : FieldPlan EntityRole} (hp : p ∈ schema.fields) : schema.field? p.name = some p := by
  cases hfield : schema.field? p.name with
  | none => exact absurd (beq_self_eq_true p.name) (List.find?_eq_none.1 hfield p hp)
  | some found =>
    have hname := List.find?_some hfield
    rw [beq_iff_eq] at hname
    obtain ⟨field, -, hplan⟩ := h.exists_field hp
    obtain ⟨field', -, hfound⟩ := h.exists_field (List.mem_of_find?_eq_some hfield)
    obtain rfl : field' = field :=
      (EntitySchema.plan_spec hfound).1.symm.trans (hname.trans (EntitySchema.plan_spec hplan).1)
    rw [ok_unique hfound hplan]

theorem EntitySchema.mem_fields_of_mem_columns {schema : EntitySchema} {p : FieldPlan EntityRole}
    (hp : p ∈ schema.columns) : p ∈ schema.fields :=
  (List.mem_filter.1 hp).1

theorem EntitySchema.isGeneratedId_iff {schema : EntitySchema} {field : String} :
    schema.isGeneratedId field = true ↔
      ∃ id, schema.id = some id ∧ id.generated = true ∧ id.name = field := by
  rw [isGeneratedId, Option.any_eq_true]
  simp only [Bool.and_eq_true, beq_iff_eq]

/-- The id has the column of the field that it is named for. -/
theorem EntitySchema.Built.column_of_id {type : RecordType} {mapCamelCase : Bool}
    {names : List String} {schema : EntitySchema} (h : schema.Built type mapCamelCase names)
    {p : FieldPlan EntityRole} (hp : p ∈ schema.columns) {id : IdPlan} (hid : schema.id = some id)
    (hname : p.name = id.name) : p.column = id.column := by
  have hcolumn := (h.plan_of_mem (EntitySchema.mem_fields_of_mem_columns hp)).1
  have hresolve := h.id
  rw [hid] at hresolve
  rw [hcolumn, (EntitySchema.resolveId_spec hresolve).2, hname]

/-- The relation of a field comes from a mark on it, and its path was checked for the field. -/
theorem EntitySchema.Built.relation_spec {type : RecordType} {mapCamelCase : Bool}
    {names : List String} {schema : EntitySchema} (h : schema.Built type mapCamelCase names)
    {field : String} {relation : Relation} (hrelation : schema.relation field = .ok relation) :
    (field, Mark.relation relation) ∈ type.marks ∧ relation.path.validate field 1 = .ok () := by
  unfold EntitySchema.relation at hrelation
  split at hrelation
  next name column found encoding hfield =>
    cases hrelation
    obtain ⟨declared, -, hplan⟩ := h.exists_field (List.mem_of_find?_eq_some hfield)
    obtain ⟨hname, -, -, hkind⟩ := EntitySchema.plan_spec hplan
    have hfound := List.find?_some hfield
    rw [beq_iff_eq] at hfound
    obtain rfl : field = declared := hfound.symm.trans hname
    rcases hkind with hkind | ⟨relation, hkind, hmark, hvalid⟩
    · cases hkind
    · cases hkind
      exact ⟨hmark, hvalid⟩
  · cases hrelation

end CriteriaSql
