/-
  Conditions next to an AND. The condition that a field poses is a conjunct if the texts that its
  plan was declared with are tidy, whatever form it has and whatever is bound: what the builders put
  around a condition stands in parentheses, and so do alternatives. So no OR reaches over an AND
  by which statements join conditions, and where that AND is cut both sides are conjuncts.
-/
import CriteriaSql.Proofs.Conjunction.Text
import CriteriaSql.Proofs.Forms
import CriteriaSql.Proofs.Pieces
import CriteriaSql.Proofs.Placeholder.Declarations
import CriteriaSql.Proofs.Shape.Conditions
import Mathlib

namespace CriteriaSql

open Text (Bare Conjunct Flat Paired)

/-! ## Declarations -/

/-- Formats that put no parenthesis into the names of join tables and of keys. -/
structure Settings.Tidy (s : Settings) : Prop where
  joinTable : Flat s.joinTableFormat
  joinId : Flat s.joinIdFormat

/-- A level of nested queries whose columns are bare and whose tables have their parentheses in
    pairs. -/
structure Level.Tidy (level : Level) : Prop where
  select : Bare level.select
  source : Paired level.source
  compared : ∀ column ∈ level.where?, Bare column
  extra : ∀ join ∈ level.extra?, Paired join

/-- A form for the field of a column in tidy texts, apart from a condition as written. -/
def FilterForm.Tidy (column : String) : FilterForm → Prop
  | .simple _ => Bare column
  | .anyOf tests => ∀ test ∈ tests, Bare test.column
  | .custom _ => True
  | .subQuery select source _ => Bare column ∧ Bare select ∧ Paired source
  | .nested queries _ =>
    Bare column ∧ Bare queries.column ∧ ∀ level ∈ queries.levels, level.Tidy
  | .domainPath _ _ => True

/-- The plan of a field in tidy texts. -/
def FieldPlan.Tidy (plan : FieldPlan FilterForm) : Prop := plan.kind.Tidy plan.column

/-! ## One column -/

theorem Fragment.conjunct_placeholderList (n : Nat) : Conjunct (placeholderList n) := by
  have notMem {c : Char} (hc : c ∉ "?".toList) (hs : c ∉ ", ".toList) :
      c ∉ (", ".intercalate (List.replicate n "?")).toList := by
    refine Text.notMem_intercalate hs fun t ht => ?_
    rw [List.eq_of_mem_replicate ht]
    exact hc
  have hflat : Flat (", ".intercalate (List.replicate n "?")) :=
    ⟨notMem (by decide) (by decide), notMem (by decide) (by decide)⟩
  unfold placeholderList
  split
  · decide
  · exact hflat.paired.conjunct_group

/-- A comparison is the column with a conjunct behind it, whatever the column is. -/
theorem Operator.exists_tail {op : Operator} {column text : String} {shape : Shape}
    (h : op.comparison column shape = some text) :
    ∃ tail, Conjunct tail ∧ tail.toList.head? = some ' ' ∧ text = column ++ tail := by
  have single : Conjunct (op.sql ++ "?") ∧ (op.sql ++ "?").toList.head? = some ' ' := by
    cases op <;> decide
  have among (keyword : String) (hk : Conjunct keyword) (hblank : keyword.toList.head? = some ' ')
      (n : Nat) : Conjunct (keyword ++ (" " ++ Fragment.placeholderList n)) ∧
        (keyword ++ (" " ++ Fragment.placeholderList n)).toList.head? = some ' ' := by
    refine ⟨hk.append (Fragment.conjunct_placeholderList n).blank_append (by simp), ?_⟩
    rw [String.toList_append, List.head?_append, hblank]
    rfl
  have inList (n : Nat) := among " IN" (by decide) rfl n
  have outsideList (n : Nat) := among " NOT IN" (by decide) rfl n
  unfold comparison at h
  split at h
  · cases h
    exact ⟨" IS NULL", by decide, rfl, rfl⟩
  · cases h
    exact ⟨" IS NOT NULL", by decide, rfl, rfl⟩
  · cases h
  next n =>
    cases h
    refine ⟨_, (inList n).1, (inList n).2, ?_⟩
    rw [← String.toList_inj]
    simp [sql]
  next n _ =>
    cases h
    refine ⟨_, (outsideList n).1, (outsideList n).2, ?_⟩
    rw [← String.toList_inj]
    simp [sql]
  · cases h
    exact ⟨_, single.1, single.2, String.append_assoc⟩

namespace Operand

variable {x : Operand} {column : String} {op : Operator} {f : Fragment}

theorem conjunct_compare (hc : Bare column) (h : x.compare column op = .ok (some f)) :
    Conjunct f.text := by
  obtain ⟨tail, htail, hblank, htext⟩ := Operator.exists_tail (text_compare h).symm
  rw [htext]
  exact hc.conjunct.append htail hblank

theorem paired_compare (hc : Paired column) (h : x.compare column op = .ok (some f)) :
    Paired f.text := by
  obtain ⟨tail, htail, -, htext⟩ := Operator.exists_tail (text_compare h).symm
  rw [htext]
  exact hc.append htail.1

end Operand

/-! ## Forms -/

namespace Condition

/-- Conjuncts that are joined by AND make a conjunct. -/
theorem conjunct_joinWith {fs : List Fragment} (h : ∀ f ∈ fs, Conjunct f.text) :
    Conjunct (Fragment.joinWith " AND " fs).text := by
  fun_induction Fragment.joinWith " AND " fs with
  | case1 => decide
  | case2 f => exact h f List.mem_cons_self
  | case3 f g fs ih =>
    have hrest := ih fun f hf => h f (List.mem_cons_of_mem _ hf)
    exact (h f List.mem_cons_self).and hrest

theorem paired_joinWith {separator : String} {fs : List Fragment} (hs : Paired separator)
    (h : ∀ f ∈ fs, Paired f.text) : Paired (Fragment.joinWith separator fs).text := by
  fun_induction Fragment.joinWith separator fs with
  | case1 => decide
  | case2 f => exact h f List.mem_cons_self
  | case3 f g fs ih =>
    have hrest := ih fun f hf => h f (List.mem_cons_of_mem _ hf)
    exact ((h f List.mem_cons_self).append hs).append hrest

/-- Alternatives are in parentheses, unless there is only one left. -/
theorem conjunct_anyOf {x : Operand} {tests : List ColumnTest} {f : Fragment}
    (ht : ∀ test ∈ tests, Bare test.column) (h : anyOf x tests = .ok (some f)) :
    Conjunct f.text := by
  obtain ⟨found, hfound, hf⟩ := anyOf_eq_some h
  have hall : ∀ g ∈ found.filterMap id, Conjunct g.text := by
    intro g hg
    obtain ⟨test, hm, hcompare⟩ := exists_test_of_mem hfound hg
    exact Operand.conjunct_compare (ht test hm) hcompare
  rcases hf with hsingle | rfl
  · exact hall f (by rw [hsingle]; exact List.mem_singleton_self f)
  · exact (paired_joinWith (by decide) fun g hg => (hall g hg).1).conjunct_group

theorem conjunct_subQuery {select source : String} {f : Fragment} (hs : Bare select)
    (hr : Paired source) (hf : Conjunct f.text) : Conjunct (subQuery select source f).text := by
  have hinner : Paired ("SELECT " ++ select ++ " FROM " ++ source ++ " WHERE " ++ f.text) :=
    (((((by decide : Paired "SELECT ").append hs.paired).append
      (by decide : Paired " FROM ")).append hr).append (by decide : Paired " WHERE ")).append hf.1
  have htext : (subQuery select source f).text =
      "id" ++ " IN (" ++ ("SELECT " ++ select ++ " FROM " ++ source ++ " WHERE " ++ f.text) ++
        ")" := by
    rw [← String.toList_inj]
    simp [subQuery]
  rw [htext]
  exact (by decide : Conjunct "id").in_group hinner

theorem paired_levelHead {level : Level} (h : level.Tidy) : Paired (levelHead level) := by
  have hhead : Paired ("SELECT " ++ level.select ++ " FROM " ++ level.source) :=
    (((by decide : Paired "SELECT ").append h.select.paired).append
      (by decide : Paired " FROM ")).append h.source
  unfold levelHead
  dsimp only
  split
  next extra heq => exact (hhead.append (by decide)).append (h.extra extra heq)
  next => exact hhead

/-- Each level is closed behind the levels within it. -/
theorem paired_nestedQuery {tail : Fragment} (ht : Paired tail.text) {level : Level}
    {levels : List Level} (hl : ∀ l ∈ level :: levels, l.Tidy) :
    Paired (nestedQuery tail level levels).text := by
  have hhead : Paired (levelHead level) := paired_levelHead (hl level List.mem_cons_self)
  induction levels generalizing level with
  | nil => exact hhead.append ht
  | cons next levels ih =>
    have hnext : next.Tidy := hl next (by simp)
    have hinner : Paired (nestedQuery tail next levels).text :=
      ih (fun l hm => hl l (List.mem_cons_of_mem _ hm)) (paired_levelHead hnext)
    have hcolumn : Bare (level.where?.getD next.select) := by
      cases hwhere : level.where? with
      | none => exact hnext.select
      | some column => exact (hl level List.mem_cons_self).compared column hwhere
    have hgroup := (hcolumn.conjunct.in_group hinner).1
    have htext : (nestedQuery tail level (next :: levels)).text =
        levelHead level ++ " WHERE " ++ (level.where?.getD next.select ++ " IN (" ++
          (nestedQuery tail next levels).text ++ ")") := by
      rw [← String.toList_inj]
      simp [nestedQuery]
    rw [htext]
    exact (hhead.append (by decide)).append hgroup

theorem conjunct_nested {x : Operand} {column : String} {queries : NestedQueries} {op : Operator}
    {f : Fragment} (hc : Bare column) (hq : Bare queries.column)
    (hl : ∀ level ∈ queries.levels, level.Tidy)
    (h : nested x column queries op = .ok (some f)) : Conjunct f.text := by
  obtain ⟨level, levels, tail, heq, rfl, htail⟩ := nested_eq_some h
  rw [heq] at hl
  have hpaired : Paired tail.text := by
    rcases htail with ⟨-, g, rfl, hcompare⟩ | ⟨-, rfl⟩
    · have hg : Conjunct g.text := by
        refine Operand.conjunct_compare ?_ hcompare
        -- the innermost level is compared by a column of its own, or by that of the field
        cases hwhere : (levels.getLastD level).where? with
        | none => exact hc
        | some w => exact (hl _ List.getLastD_mem_cons).compared w hwhere
      exact (by decide : Paired " WHERE ").append hg.1
    · decide
  exact hq.conjunct.in_group (paired_nestedQuery hpaired hl)

/-- The names of a path have no parentheses. -/
theorem flat_hop {path : DomainPath} {s : Settings} {reversed : Bool} {hop : Hop} (hs : s.Tidy)
    (hp : ∀ domain ∈ path.domains, isDomainName domain = true)
    (h : hop ∈ (path.expand s reversed).hops) :
    Flat hop.table ∧ Flat hop.source ∧ Flat hop.target := by
  have hdomain {c : Char} (hc : Text.isWord c = false) :
      ∀ domain ∈ path.domains, c ∉ domain.toList := by
    intro domain hm hmem
    rw [isWord_of_isDomainName (hp domain hm) c hmem] at hc
    cases hc
  have htable {table : String} (hm : table ∈ (path.expand s reversed).joinTables) :
      Flat table := by
    obtain ⟨left, hl, right, hr, rfl⟩ := DomainPath.exists_of_mem_joinTables_expand hm
    have notMem {c : Char} (hc : Text.isWord c = false) (hf : c ∉ s.joinTableFormat.toList) :
        c ∉ (s.joinTable left right).toList :=
      Naming.notMem_fill hf (by simp [hdomain hc left hl, hdomain hc right hr])
    exact ⟨notMem (by decide) hs.joinTable.1, notMem (by decide) hs.joinTable.2⟩
  have hkey {key : String} (hm : key ∈ (path.expand s reversed).joinIds) : Flat key := by
    obtain ⟨domain, hd, rfl⟩ := DomainPath.exists_of_mem_map_domains hm
    have notMem {c : Char} (hc : Text.isWord c = false) (hf : c ∉ s.joinIdFormat.toList) :
        c ∉ (s.joinId domain).toList :=
      Naming.notMem_fill hf (by simp [hdomain hc domain hd])
    exact ⟨notMem (by decide) hs.joinId.1, notMem (by decide) hs.joinId.2⟩
  obtain ⟨ht, hsource, htarget⟩ := ExpandedPath.mem_hopsOver h
  exact ⟨htable ht, hkey hsource, hkey htarget⟩

theorem paired_hopQuery {hop : Hop} {condition : Fragment} (htable : Flat hop.table)
    (htarget : Flat hop.target) (hc : Paired condition.text) :
    Paired (hopQuery hop condition).text :=
  (((((by decide : Paired "SELECT ").append htarget.paired).append
    (by decide : Paired " FROM ")).append htable.paired).append
      (by decide : Paired " WHERE ")).append hc

theorem paired_pathQuery {condition : Fragment} {hop : Hop} {hops : List Hop}
    (hc : Paired condition.text)
    (hh : ∀ step ∈ hop :: hops, Flat step.table ∧ Flat step.source ∧ Flat step.target) :
    Paired (pathQuery condition hop hops).text := by
  have hhop : Paired (hopQuery hop condition).text := by
    obtain ⟨htable, -, htarget⟩ := hh hop List.mem_cons_self
    exact paired_hopQuery htable htarget hc
  induction hops generalizing condition hop with
  | nil => exact hhop
  | cons next hops ih =>
    have hrest : ∀ step ∈ next :: hops, Flat step.table ∧ Flat step.source ∧ Flat step.target :=
      fun step hm => hh step (List.mem_cons_of_mem _ hm)
    obtain ⟨hnext, hsource, hreached⟩ := hrest next List.mem_cons_self
    rw [pathQuery_cons]
    have hinner := hsource.paired.in_group hhop
    exact ih hinner hrest (paired_hopQuery hnext hreached hinner)

theorem conjunct_domainPath {x : Operand} {s : Settings} {path : DomainPath} {op : Operator}
    {f : Fragment} (hs : s.Tidy) (hp : ∀ domain ∈ path.domains, isDomainName domain = true)
    (h : domainPath x s path op = .ok (some f)) : Conjunct f.text := by
  obtain ⟨hop, hops, g, hhops, hcompare, rfl⟩ := domainPath_eq_some h
  have hflat : ∀ step ∈ hop :: hops, Flat step.table ∧ Flat step.source ∧ Flat step.target :=
    fun step hm => flat_hop hs hp (hhops.symm ▸ hm)
  have hstart := Operand.paired_compare (hflat hop List.mem_cons_self).2.1.paired hcompare
  exact (by decide : Conjunct "id").in_group (paired_pathQuery hstart hflat)

end Condition

/-! ## Fields -/

/-- The condition of a tidy plan is a conjunct, unless it is one as written. -/
theorem FieldPlan.conjunct_condition {plan : FieldPlan FilterForm} {s : Settings}
    {value : FieldValue} {f : Fragment} (hs : s.Tidy) (hp : plan.Tidy)
    (hcustom : ∀ template, plan.kind ≠ .custom template)
    (hpath : ∀ path op, plan.kind = .domainPath path op →
      ∀ domain ∈ path.domains, isDomainName domain = true)
    (h : plan.condition s value = .ok (some f)) : Conjunct f.text := by
  obtain ⟨name, column, kind, encoding⟩ := plan
  obtain ⟨-, h⟩ := poses_of_condition h
  cases kind with
  | simple op => exact Operand.conjunct_compare hp h
  | anyOf tests => exact Condition.conjunct_anyOf hp h
  | custom template => exact absurd rfl (hcustom template)
  | subQuery select source op =>
    obtain ⟨hcolumn, hselect, hsource⟩ := hp
    obtain ⟨g, hcompare, rfl⟩ := h
    exact Condition.conjunct_subQuery hselect hsource (Operand.conjunct_compare hcolumn hcompare)
  | nested queries op => exact Condition.conjunct_nested hp.1 hp.2.1 hp.2.2 h
  | domainPath path op => exact Condition.conjunct_domainPath hs (hpath path op rfl) h

/-! ## Conditions joined by AND -/

/-- Conjuncts that are joined by AND hold together. -/
theorem Text.AndReading.holds_joinWith (r : AndReading) {fs : List Fragment} (hne : fs ≠ [])
    (hc : ∀ f ∈ fs, Conjunct f.text) (hr : ∀ f ∈ fs, r.reads f.text) :
    r.reads (Fragment.joinWith " AND " fs).text ∧
      (r.holds (Fragment.joinWith " AND " fs).text ↔ ∀ f ∈ fs, r.holds f.text) := by
  fun_induction Fragment.joinWith " AND " fs with
  | case1 => exact absurd rfl hne
  | case2 f => exact ⟨hr f List.mem_cons_self, by rw [List.forall_mem_singleton]⟩
  | case3 f g fs ih =>
    have hrest : ∀ f ∈ g :: fs, Conjunct f.text := fun f hf => hc f (List.mem_cons_of_mem _ hf)
    obtain ⟨hreads, hholds⟩ :=
      ih (List.cons_ne_nil g fs) hrest fun f hf => hr f (List.mem_cons_of_mem _ hf)
    have hfirst := hc f List.mem_cons_self
    have hjoined := Condition.conjunct_joinWith hrest
    refine ⟨r.reads_and hfirst hjoined (hr f List.mem_cons_self) hreads, ?_⟩
    rw [List.forall_mem_cons, ← hholds]
    exact r.holds_and hfirst hjoined (hr f List.mem_cons_self) hreads

/-- Pieces that each follow the same text are the text and then the pieces joined by it. -/
theorem Fragment.concat_map_eq {lead : String} {fs : List Fragment} (hne : fs ≠ []) :
    concat (fs.map fun f => lead ++ f) = lead ++ joinWith lead fs := by
  fun_induction Fragment.joinWith lead fs with
  | case1 => exact absurd rfl hne
  | case2 f => exact append_ofText_empty _
  | case3 f g fs ih =>
    rw [List.map_cons, Fragment.concat, ih (List.cons_ne_nil g fs)]
    simp only [append_assoc]

theorem Related.restrict_eq (s : Settings) (page : Page) (order : Option String)
    {cs : List Fragment} (hne : cs ≠ []) (clause : Fragment) :
    restrict s page order cs clause =
      restrict s page order [] (clause ++ " AND " ++ Fragment.joinWith " AND " cs) := by
  have hall : clause ++ " AND " ++ Fragment.joinWith " AND " cs =
      clause ++ Fragment.concat (cs.map fun c => " AND " ++ c) := by
    rw [Fragment.concat_map_eq hne, Fragment.append_assoc]
  unfold restrict
  rw [hall]
  simp only [List.map_nil, Fragment.concat, Fragment.empty, Fragment.append_ofText_empty]

theorem whereClause_eq {cs : List Fragment} (hne : cs ≠ []) :
    whereClause cs = " WHERE " ++ Fragment.joinWith " AND " cs := by
  cases cs with
  | nil => exact absurd rfl hne
  | cons c cs => rfl

/-- The condition that a tidy field of a schema poses is a conjunct: its parentheses are in pairs
    and no OR is outside of them. So where no condition is as written, the texts on both sides of
    any AND by which statements join the conditions are conjuncts, and what is joined holds, in
    every reading, if and only if each of the conditions does. -/
theorem conditions_conjoin {type : RecordType} {mapCamelCase : Bool} {schema : CriteriaSchema}
    {s : Settings} (hschema : type.criteriaSchema mapCamelCase = .ok schema) (hs : s.Tidy) :
    (∀ plan ∈ schema.fields, plan.Tidy → (∀ template, plan.kind ≠ .custom template) →
      ∀ value f, plan.condition s value = .ok (some f) → Conjunct f.text) ∧
    ((∀ field template, (field, Mark.queryField template) ∉ type.marks) →
      (∀ plan ∈ schema.fields, plan.Tidy) →
      ∀ record taken cs, schema.conditions s record taken = .ok cs →
        (∀ left right, cs = left ++ right → left ≠ [] → right ≠ [] →
          let lefts := Fragment.joinWith " AND " left
          let rights := Fragment.joinWith " AND " right
          Conjunct lefts.text ∧ Conjunct rights.text ∧
          whereClause cs = " WHERE " ++ (lefts ++ " AND " ++ rights) ∧
          ∀ page order clause, Related.restrict s page order cs clause =
            Related.restrict s page order [] (clause ++ " AND " ++ (lefts ++ " AND " ++ rights))) ∧
        ∀ r : Text.AndReading, cs ≠ [] → (∀ c ∈ cs, r.reads c.text) →
          (r.holds (Fragment.joinWith " AND " cs).text ↔ ∀ c ∈ cs, r.holds c.text)) := by
  obtain ⟨names, hbuilt⟩ := RecordType.criteriaSchema_built hschema
  have hfields : ∀ plan ∈ schema.fields, plan.Tidy →
      (∀ template, plan.kind ≠ .custom template) →
      ∀ value f, plan.condition s value = .ok (some f) → Conjunct f.text := by
    intro plan hplan htidy hcustom value f hf
    refine FieldPlan.conjunct_condition hs htidy hcustom (fun path op hkind => ?_) hf
    exact (DomainPath.domains_of_validate (hbuilt.validate_of_domainPath hplan hkind)).2
  refine ⟨hfields, fun hmarks htidy record taken cs hcs => ?_⟩
  have hall : ∀ c ∈ cs, Conjunct c.text := by
    intro c hc
    obtain ⟨plan, hplan, hcondition⟩ := CriteriaSchema.exists_plan_of_mem hcs hc
    refine hfields plan hplan (htidy plan hplan) (fun template hkind => ?_) _ c hcondition
    exact hmarks _ _ (hbuilt.mem_marks_of_custom hplan hkind)
  refine ⟨fun left right heq hleft hright => ?_, fun r hne hreads => ?_⟩
  · subst heq
    have hne : left ++ right ≠ [] := List.append_ne_nil_of_left_ne_nil hleft right
    have hjoin : Fragment.joinWith " AND " (left ++ right) = _ :=
      Fragment.joinWith_append hleft hright
    refine ⟨?_, ?_, ?_, fun page order clause => ?_⟩
    · exact Condition.conjunct_joinWith fun c hc => hall c (List.mem_append_left _ hc)
    · exact Condition.conjunct_joinWith fun c hc => hall c (List.mem_append_right _ hc)
    · rw [whereClause_eq hne, hjoin]
    · rw [Related.restrict_eq s page order hne, hjoin]
  · exact (r.holds_joinWith hne hall hreads).2

/-- Criteria for members: alternatives, and a sub-query over a table that is itself a query. -/
def memberCriteria : RecordType :=
  ⟨"MemberQuery", some ["nameOrEmailLike", "role"], "member", none, none,
    [("role", .subQuery "member_id" "(SELECT * FROM grants WHERE kept = 1 OR term > 0) g")]⟩

/-- The schema of the criteria for members. -/
def memberSchema : CriteriaSchema :=
  ⟨"MemberQuery", ⟨"member", [.literal "member".toList]⟩, none, none,
    [⟨"nameOrEmailLike", "nameOrEmail", .anyOf [⟨"name", .like⟩, ⟨"email", .like⟩], .ordinal⟩,
      ⟨"role", "role",
        .subQuery "member_id" "(SELECT * FROM grants WHERE kept = 1 OR term > 0) g" .eq,
        .ordinal⟩]⟩

/-- Members with an `a` in their names who have the role 3. -/
def memberValues : Record :=
  ⟨"MemberQuery", [("nameOrEmailLike", .scalar (.text "a")), ("role", .scalar (.int 3))]⟩

theorem tidy_memberSchema : ∀ plan ∈ memberSchema.fields, plan.Tidy := by
  intro plan hplan
  rcases List.mem_cons.1 hplan with rfl | hplan
  · intro test htest
    rcases List.mem_cons.1 htest with rfl | htest
    · decide
    · rw [List.mem_singleton.1 htest]
      decide
  · rw [List.mem_singleton.1 hplan]
    exact ⟨by decide, by decide, by decide⟩

set_option maxRecDepth 20000 in
/-- The alternatives and the sub-query hold an OR each, and neither reaches over the AND: read part
    by part, the joined text holds if and only if both conditions do. -/
theorem conditions_conjoin_members :
    memberCriteria.criteriaSchema false = .ok memberSchema ∧ Settings.default.Tidy ∧
      ∃ left right : Fragment,
        memberSchema.conditions .default memberValues none = .ok [left, right] ∧
        left.text = "(name LIKE ? OR email LIKE ?)" ∧
        right.text = "id IN (SELECT member_id FROM " ++
          "(SELECT * FROM grants WHERE kept = 1 OR term > 0) g WHERE role = ?)" ∧
        Conjunct left.text ∧ Conjunct right.text ∧
        ∀ truth : String → Prop,
          (Text.AndReading.byParts truth).holds (Fragment.joinWith " AND " [left, right]).text ↔
            truth left.text ∧ truth right.text := by
  have hschema : memberCriteria.criteriaSchema false = .ok memberSchema := by cbv
  have hs : Settings.default.Tidy := ⟨by decide, by decide⟩
  have hmarks : ∀ field template, (field, Mark.queryField template) ∉ memberCriteria.marks := by
    simp [memberCriteria]
  have hcs : memberSchema.conditions .default memberValues none = .ok
      [⟨"(name LIKE ? OR email LIKE ?)", [.text "%a%", .text "%a%"]⟩,
        ⟨"id IN (SELECT member_id FROM " ++
          "(SELECT * FROM grants WHERE kept = 1 OR term > 0) g WHERE role = ?)", [.int 3]⟩] := by
    cbv
  obtain ⟨hcut, hread⟩ := (conditions_conjoin hschema hs).2 hmarks tidy_memberSchema _ _ _ hcs
  obtain ⟨hleft, hright, -⟩ := hcut [_] [_] rfl (List.cons_ne_nil _ _) (List.cons_ne_nil _ _)
  refine ⟨hschema, hs, _, _, hcs, rfl, rfl, hleft, hright, fun truth => ?_⟩
  rw [hread (.byParts truth) (List.cons_ne_nil _ _)
    (List.forall_mem_cons.2 ⟨hleft, List.forall_mem_singleton.2 hright⟩),
    List.forall_mem_cons, List.forall_mem_singleton]
  -- each condition is one part: the ANDs and ORs that it holds are within its parentheses
  exact and_congr (Text.AndReading.holds_byParts (by decide))
    (Text.AndReading.holds_byParts (by decide))

end CriteriaSql
