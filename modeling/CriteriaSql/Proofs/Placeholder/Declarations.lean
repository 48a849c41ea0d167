/-
  Declarations in plain texts, apart from conditions as written. What is checked when a schema is
  built keeps placeholders out of the rest: the names of domains and the join clauses of nested
  queries. So the plans of a schema whose declaration is plain are plain (`plain_field`).
-/
import CriteriaSql.Proofs.Path.Steps
import CriteriaSql.Proofs.PlainText
import CriteriaSql.Proofs.Schemas

namespace CriteriaSql

open Text (Plain)

/-! ## Declarations -/

/-- A level of nested queries in plain texts; its join clause is left to the check of the queries.
    -/
structure Level.Plain (level : Level) : Prop where
  select : Text.Plain level.select
  source : Text.Plain level.source
  compared : ∀ column ∈ level.where?, Text.Plain column

/-- Nested queries in plain texts. -/
structure NestedQueries.Plain (queries : NestedQueries) : Prop where
  column : Text.Plain queries.column
  levels : ∀ level ∈ queries.levels, level.Plain

/-- The texts that a mark gives are plain, apart from a condition as written. -/
def Mark.Plain : Mark → Prop
  | .subQuery select source => Text.Plain select ∧ Text.Plain source
  | .nested queries => queries.Plain
  | .relation r => ∀ key ∈ r.path.foreignKey, Text.Plain key
  | _ => True

/-- A type in plain texts, as far as it counts where the type is used as an entity. -/
structure RecordType.PlainEntity (type : RecordType) : Prop where
  fields : ∀ names ∈ type.fields, ∀ name ∈ names, Plain name
  table : Plain type.table
  marks : ∀ entry ∈ type.marks, entry.2.Plain

/-- A type in plain texts, with those that count where the type is used as criteria. -/
structure RecordType.PlainCriteria (type : RecordType) : Prop extends type.PlainEntity where
  join : ∀ text ∈ type.join, Plain text
  groupBy : ∀ text ∈ type.groupBy, Plain text

/-! ## Checked paths -/

/-- The domain of a path of one domain names no column by which it refers to its owner. -/
def DomainPath.LacksKey (path : DomainPath) : Prop :=
  path.domains.length = 1 ∧ path.foreignKey = none

/-- The check of a path: enough domains, each with a proper name, and for a single one a foreign key
    or a local field. -/
theorem DomainPath.validate_eq_ok {path : DomainPath} {field : String} {least : Nat} :
    path.validate field least = .ok () ↔
      least ≤ path.domains.length ∧ (∀ domain ∈ path.domains, isDomainName domain = true) ∧
        (path.LacksKey → path.localField ≠ none) := by
  unfold validate LacksKey
  constructor
  · intro h
    split at h
    · cases h
    next hlength =>
      split at h
      · cases h
      next hnames =>
        split at h
        · cases h
        next hreached =>
          refine ⟨Nat.le_of_not_lt hlength, fun domain hdomain => ?_, fun hkey hlocal => ?_⟩
          · simpa using List.find?_eq_none.1 hnames domain hdomain
          · exact hreached ⟨hkey.1, hkey.2, hlocal⟩
  · rintro ⟨hlength, hnames, hreached⟩
    rw [if_neg (Nat.not_lt.2 hlength),
      List.find?_eq_none.2 fun domain hdomain => by simpa using hnames domain hdomain]
    exact if_neg fun hall => hreached ⟨hall.1, hall.2.1⟩ hall.2.2

theorem DomainPath.domains_of_validate {path : DomainPath} {field : String} {least : Nat}
    (h : path.validate field least = .ok ()) :
    least ≤ path.domains.length ∧ ∀ domain ∈ path.domains, isDomainName domain = true :=
  ⟨(validate_eq_ok.1 h).1, (validate_eq_ok.1 h).2.1⟩

theorem DomainPath.ne_nil_of_validate {path : DomainPath} {field : String}
    (h : path.validate field 1 = .ok ()) : path.domains ≠ [] :=
  List.length_pos_iff.1 (domains_of_validate h).1

theorem DomainPath.two_le_of_ne_one {path : DomainPath} (hsome : path.domains ≠ [])
    (hne : path.domains.length ≠ 1) : 2 ≤ path.domains.length := by
  have hpos := List.length_pos_iff.2 hsome
  omega

theorem DomainPath.plain_of_validate {path : DomainPath} {field : String} {least : Nat}
    (h : path.validate field least = .ok ()) : ∀ domain ∈ path.domains, Plain domain :=
  fun domain hm => plain_of_isDomainName ((domains_of_validate h).2 domain hm)

theorem Text.plain_of_contains {s : String} (h : Text.contains s "?" = false) : Plain s := by
  intro hm
  obtain ⟨before, behind, he⟩ := List.append_of_mem hm
  have : Text.contains s "?" = true := Text.hasPart_iff.2 ⟨before, behind, by simp [he]⟩
  rw [h] at this
  cases this

/-- The join clauses of nested queries that were checked are plain. -/
theorem NestedQueries.plain_of_validate {queries : NestedQueries} {field : String}
    (h : queries.validate field = .ok ()) :
    ∀ level ∈ queries.levels, ∀ extra ∈ level.extra?, Text.Plain extra := by
  unfold validate at h
  split at h
  · cases h
  · split at h
    · cases h
    next hany =>
      intro level hl extra he
      rw [Option.mem_def] at he
      apply Text.plain_of_contains
      by_contra hc
      rw [Bool.not_eq_false] at hc
      exact hany (List.any_eq_true.2 ⟨level, hl, by rw [he]; exact hc⟩)

/-- The steps of a path are over its join tables, between its keys. -/
theorem ExpandedPath.mem_hopsOver {tables keys : List String} {hop : Hop}
    (h : hop ∈ hopsOver tables keys) :
    hop.table ∈ tables ∧ hop.source ∈ keys ∧ hop.target ∈ keys := by
  fun_induction hopsOver tables keys with
  | case1 table tables source target keys ih =>
    rcases List.mem_cons.1 h with rfl | h
    · simp
    · obtain ⟨ht, hs, htg⟩ := ih h
      exact ⟨List.mem_cons_of_mem _ ht, List.mem_cons_of_mem _ hs, List.mem_cons_of_mem _ htg⟩
  | case2 => cases h

/-- A step in plain texts. -/
structure Hop.Plain (hop : Hop) : Prop where
  table : Text.Plain hop.table
  source : Text.Plain hop.source
  target : Text.Plain hop.target

/-- A path in plain texts. -/
structure ExpandedPath.Plain (path : ExpandedPath) : Prop where
  tables : ∀ table ∈ path.tables, Text.Plain table
  joinTables : ∀ table ∈ path.joinTables, Text.Plain table
  joinIds : ∀ key ∈ path.joinIds, Text.Plain key

theorem DomainPath.plain_expand {s : Settings} (hs : s.Plain) {path : DomainPath}
    (h : ∀ domain ∈ path.domains, Plain domain) (reversed : Bool) :
    (path.expand s reversed).Plain := by
  refine ⟨fun table hm => ?_, fun table hm => ?_, fun key hm => ?_⟩
  · obtain ⟨domain, hd, rfl⟩ := exists_of_mem_map_domains hm
    exact hs.plain_table (h domain hd)
  · obtain ⟨left, hl, right, hr, rfl⟩ := exists_of_mem_joinTables_expand hm
    exact hs.plain_joinTable (h left hl) (h right hr)
  · obtain ⟨domain, hd, rfl⟩ := exists_of_mem_map_domains hm
    exact hs.plain_joinId (h domain hd)

theorem ExpandedPath.Plain.hops {path : ExpandedPath} (hp : path.Plain) {hop : Hop}
    {hops : List Hop} (h : path.hops = hop :: hops) : ∀ step ∈ hop :: hops, step.Plain := by
  intro step hm
  obtain ⟨htable, hsource, htarget⟩ := mem_hopsOver (h.symm ▸ hm : step ∈ path.hops)
  exact ⟨hp.joinTables _ htable, hp.joinIds _ hsource, hp.joinIds _ htarget⟩

theorem ExpandedPath.Plain.targetTable {path : ExpandedPath} (hp : path.Plain) :
    Text.Plain path.targetTable := by
  unfold ExpandedPath.targetTable
  rcases List.mem_cons.1 (List.getLastD_mem_cons (a := "") (l := path.tables)) with h | h
  · rw [h]
    decide
  · exact hp.tables _ h

/-! ## Templates -/

/-- A literal of a template is a part of its source. -/
theorem Template.plain_literal {kind : TemplateKind} {source : String} {t : Template}
    (h : parse kind source = .ok t) (hs : Plain source) {text : List Char}
    (hm : Segment.literal text ∈ t.segments) : '?' ∉ text := by
  intro hc
  apply hs
  rw [segments_of_parse h] at hm
  rw [← written_cut kind source.toList, List.mem_flatMap]
  exact ⟨_, hm, hc⟩

theorem Template.plain_render {source : String} {t : Template} (h : parse .table source = .ok t)
    (hs : Plain source) {record : Record} {text : String} (hr : t.render record = .ok text) :
    Plain text := by
  unfold render at hr
  rw [bind_eq_ok] at hr
  obtain ⟨parts, hp, hj⟩ := hr
  rw [pure_eq_ok] at hj
  subst hj
  refine Text.plain_join fun part hm => ?_
  obtain ⟨segment, hseg, hpart⟩ := exists_of_mem_mapM hp hm
  unfold renderSegment at hpart
  split at hpart
  · cases hpart
    exact Text.plain_ofList.2 (plain_literal h hs hseg)
  · rw [bind_eq_ok] at hpart
    obtain ⟨value, -, hpart⟩ := hpart
    dsimp only at hpart
    split at hpart
    next hall =>
      rw [pure_eq_ok] at hpart
      subst hpart
      exact Text.plain_of_forall (p := Text.isAsciiWord) (by decide) (List.all_eq_true.1 hall)
    · cases hpart

/-! ## Plans -/

/-- A form in plain texts, apart from a condition as written. -/
def FilterForm.Plain : FilterForm → Prop
  | .simple _ => True
  | .anyOf tests => ∀ test ∈ tests, Text.Plain test.column
  | .custom _ => True
  | .subQuery select source _ => Text.Plain select ∧ Text.Plain source
  | .nested queries _ =>
    queries.Plain ∧ ∀ level ∈ queries.levels, ∀ extra ∈ level.extra?, Text.Plain extra
  | .domainPath path _ => ∀ domain ∈ path.domains, Text.Plain domain

/-- The plan of a field in plain texts, apart from a condition as written. -/
structure FieldPlan.Plain (plan : FieldPlan FilterForm) : Prop where
  column : Text.Plain plan.column
  kind : plan.kind.Plain

theorem CriteriaSchema.plain_namedForm {field : String} (h : Plain field) (mapCamelCase : Bool)
    (op : Operator) : (namedForm mapCamelCase field op).Plain := by
  unfold namedForm
  dsimp only
  split
  · intro test hm
    obtain ⟨member, hmem, rfl⟩ := List.mem_map.1 hm
    exact Naming.plain_column (FieldName.plain_members h hmem)
  · trivial

theorem CriteriaSchema.MarkedForm.plain {field : String} {op : Operator} {mark : Mark}
    {form : FilterForm} (h : MarkedForm field op mark form) (hm : mark.Plain) : form.Plain := by
  cases h with
  | custom => trivial
  | subQuery => exact hm
  | nested hv => exact ⟨hm, NestedQueries.plain_of_validate hv⟩
  | domainPath hv => exact DomainPath.plain_of_validate hv

/-- The plans of a plain criteria type are plain. -/
theorem CriteriaSchema.Built.plain_field {type : RecordType} {mapCamelCase : Bool}
    {names : List String} {schema : CriteriaSchema} (h : schema.Built type mapCamelCase names)
    (ht : type.PlainCriteria) {p : FieldPlan FilterForm} (hp : p ∈ schema.fields) : p.Plain := by
  obtain ⟨field, hf, hplan⟩ := h.exists_field hp
  have hname : Plain field := ht.fields names h.fields field hf
  obtain ⟨-, hcol, -, hkind⟩ := plan_spec hplan
  refine ⟨?_, ?_⟩
  · rw [hcol]
    exact Naming.plain_column (Operator.plain_ofName hname)
  · rcases hkind with ⟨mark, hmark, hform⟩ | hform
    · exact hform.plain (ht.marks _ hmark)
    · rw [hform]
      exact plain_namedForm hname mapCamelCase _

/-- The join clause of a plain criteria type is made from a plain text. -/
theorem CriteriaSchema.Built.plain_join {type : RecordType} {mapCamelCase : Bool}
    {names : List String} {schema : CriteriaSchema} (h : schema.Built type mapCamelCase names)
    (ht : type.PlainCriteria) {t : Template} (hj : t ∈ schema.join.toList) :
    ∃ source, Plain source ∧ Template.parse .join source = .ok t := by
  rcases option_mapM_eq_ok.1 h.join with ⟨-, hn⟩ | ⟨source, u, hs, hu, hp⟩
  · rw [hn] at hj
    cases hj
  · rw [hu, Option.toList_some, List.mem_singleton] at hj
    subst hj
    exact ⟨source, ht.join source hs, hp⟩

theorem CriteriaSchema.Built.plain_groupBy {type : RecordType} {mapCamelCase : Bool}
    {names : List String} {schema : CriteriaSchema} (h : schema.Built type mapCamelCase names)
    (ht : type.PlainCriteria) : ∀ text ∈ schema.groupBy, Plain text := by
  intro text hm
  rw [h.groupBy, Option.mem_filter_iff] at hm
  obtain ⟨declared, hd, rfl⟩ := Option.map_eq_some_iff.1 hm.1
  exact Text.plain_trim (ht.groupBy declared hd)

namespace EntitySchema.Built

variable {type : RecordType} {mapCamelCase : Bool} {names : List String} {schema : EntitySchema}

theorem plain_column (h : schema.Built type mapCamelCase names) (ht : type.PlainEntity)
    {p : FieldPlan EntityRole} (hp : p ∈ schema.fields) : Plain p.name ∧ Plain p.column := by
  obtain ⟨field, hf, hplan⟩ := h.exists_field hp
  have hname : Plain field := ht.fields names h.fields field hf
  obtain ⟨hn, hcol, -, -⟩ := EntitySchema.plan_spec hplan
  rw [hn, hcol]
  exact ⟨hname, Naming.plain_column hname⟩

theorem plain_idColumn (h : schema.Built type mapCamelCase names) (ht : type.PlainEntity) :
    Plain schema.idColumn := by
  unfold EntitySchema.idColumn
  cases hid : schema.id with
  | none => decide
  | some id =>
    obtain ⟨hm, hcol⟩ := EntitySchema.resolveId_spec (hid ▸ h.id)
    rw [Option.map_some, Option.getD_some, hcol]
    exact Naming.plain_column (ht.fields names h.fields _ hm)

theorem plain_relation (h : schema.Built type mapCamelCase names) (ht : type.PlainEntity)
    {field : String} {relation : Relation} (hr : schema.relation field = .ok relation) :
    (∀ domain ∈ relation.path.domains, Plain domain) ∧
      ∀ key ∈ relation.path.foreignKey, Plain key := by
  obtain ⟨hmark, hvalid⟩ := h.relation_spec hr
  exact ⟨DomainPath.plain_of_validate hvalid, ht.marks _ hmark⟩

end EntitySchema.Built

end CriteriaSql
