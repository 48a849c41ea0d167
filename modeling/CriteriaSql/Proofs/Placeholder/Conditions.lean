/-
  Conditions and join clauses are balanced: each has as many placeholders as arguments. For a
  condition the invariant is proved form by form, from the comparison of one column outwards; only
  the plan has to be plain, whatever the value is.
-/
import CriteriaSql.Proofs.Placeholder.Nested

namespace CriteriaSql

open Text (Plain)

/-! ## Paths -/

namespace Condition

theorem balanced_hopQuery {hop : Hop} {condition : Fragment} (hh : hop.Plain)
    (hc : condition.Balanced) : (hopQuery hop condition).Balanced := by
  simp +decide [hopQuery, hh.target, hh.table, hc]

theorem balanced_pathQuery {condition : Fragment} {hop : Hop} {hops : List Hop}
    (hc : condition.Balanced) (hh : ∀ step ∈ hop :: hops, step.Plain) :
    (pathQuery condition hop hops).Balanced := by
  have hhop : (hopQuery hop condition).Balanced :=
    balanced_hopQuery (hh hop List.mem_cons_self) hc
  induction hops generalizing condition hop with
  | nil => exact hhop
  | cons next hops ih =>
    have hnext : next.Plain := hh next (by simp)
    have hrest : ∀ step ∈ next :: hops, step.Plain :=
      fun step hm => hh step (List.mem_cons_of_mem _ hm)
    have hinner :
        (next.source ++ " IN (" ++ hopQuery hop condition ++ ")" : Fragment).Balanced := by
      simp +decide [hnext.source, hhop]
    rw [pathQuery_cons]
    exact ih hinner hrest (balanced_hopQuery hnext hinner)

end Condition

/-! ## One column -/

theorem Operand.balanced_compare {x : Operand} {column : String} {op : Operator} {f : Fragment}
    (hc : Plain column) (h : x.compare column op = .ok (some f)) : f.Balanced := by
  rw [Fragment.Balanced, placeholders_compare h, Text.plain_iff_countChar.1 hc, Nat.zero_add]

/-! ## Forms -/

namespace Condition

theorem balanced_anyOf {x : Operand} {tests : List ColumnTest} {f : Fragment}
    (ht : ∀ test ∈ tests, Plain test.column) (h : anyOf x tests = .ok (some f)) : f.Balanced := by
  obtain ⟨found, hfound, hf⟩ := anyOf_eq_some h
  have hall : ∀ g ∈ found.filterMap id, g.Balanced := by
    intro g hg
    obtain ⟨test, hm, hcompare⟩ := exists_test_of_mem hfound hg
    exact Operand.balanced_compare (ht test hm) hcompare
  rcases hf with hsingle | rfl
  · exact hall f (by rw [hsingle]; exact List.mem_singleton_self f)
  · exact (Fragment.Balanced.joinWith (by decide) hall).parenthesized

theorem balanced_custom {x : Operand} {template : String} {f : Fragment}
    (h : custom x template = .ok f) : f.Balanced := by
  obtain ⟨htext, hargs⟩ := custom_eq_ok h
  unfold Fragment.Balanced Fragment.placeholders
  rw [htext]
  rcases hargs with ⟨hzero, hargs⟩ | ⟨-, ⟨items, -, hlength, hargs⟩ | ⟨-, arg, -, hargs⟩⟩
  · rw [hzero, hargs, List.length_nil]
  · rw [length_of_mapM hargs, hlength]
  · rw [hargs, List.length_replicate]

theorem balanced_subQuery {select source : String} {f : Fragment} (hs : Plain select)
    (hr : Plain source) (hf : f.Balanced) : (subQuery select source f).Balanced := by
  simp +decide [subQuery, hs, hr, hf]

theorem balanced_nested {x : Operand} {column : String} {queries : NestedQueries} {op : Operator}
    {f : Fragment} (hc : Plain column) (hq : queries.Plain)
    (he : ∀ level ∈ queries.levels, ∀ extra ∈ level.extra?, Plain extra)
    (h : nested x column queries op = .ok (some f)) : f.Balanced := by
  rw [Fragment.Balanced, placeholders_nested he h,
    Text.marksIn_eq_zero_iff.2 (NestedQueries.plain_unread hc hq), Nat.add_zero]

theorem balanced_domainPath {x : Operand} {s : Settings} {path : DomainPath} {op : Operator}
    {f : Fragment} (hs : s.Plain) (hp : ∀ domain ∈ path.domains, Plain domain)
    (h : domainPath x s path op = .ok (some f)) : f.Balanced := by
  obtain ⟨hop, hops, g, hhops, hcompare, rfl⟩ := domainPath_eq_some h
  have hplain : ∀ step ∈ hop :: hops, step.Plain :=
    (DomainPath.plain_expand hs hp (readsFromEnd path x.field)).hops hhops
  have hstart := Operand.balanced_compare (hplain hop List.mem_cons_self).source hcompare
  have := balanced_pathQuery hstart hplain
  simp +decide [this]

end Condition

/-! ## Fields -/

/-- The condition of a plain plan has as many placeholders as arguments. -/
theorem FieldPlan.balanced_condition {plan : FieldPlan FilterForm} {s : Settings}
    {value : FieldValue} {f : Fragment} (hs : s.Plain) (hp : plan.Plain)
    (h : plan.condition s value = .ok (some f)) : f.Balanced := by
  obtain ⟨name, column, kind, encoding⟩ := plan
  obtain ⟨hcol, hkind⟩ := hp
  obtain ⟨-, h⟩ := poses_of_condition h
  cases kind with
  | simple op => exact Operand.balanced_compare hcol h
  | anyOf tests => exact Condition.balanced_anyOf hkind h
  | custom template => exact Condition.balanced_custom h
  | subQuery select source op =>
    obtain ⟨g, hcompare, rfl⟩ := h
    exact Condition.balanced_subQuery hkind.1 hkind.2 (Operand.balanced_compare hcol hcompare)
  | nested queries op => exact Condition.balanced_nested hcol hkind.1 hkind.2 h
  | domainPath path op => exact Condition.balanced_domainPath hs hkind h

theorem CriteriaSchema.balanced_conditions {schema : CriteriaSchema} {s : Settings}
    {record : Record} {taken : Option Template} {cs : List Fragment} (hs : s.Plain)
    (hp : ∀ plan ∈ schema.fields, plan.Plain)
    (h : schema.conditions s record taken = .ok cs) : ∀ c ∈ cs, c.Balanced := by
  intro c hc
  obtain ⟨plan, hplan, hcondition⟩ := exists_plan_of_mem h hc
  exact FieldPlan.balanced_condition hs (hp plan hplan) hcondition

/-! ## Join clauses -/

theorem Template.balanced_bind {kind : TemplateKind} {source : String} {t : Template}
    (hp : parse kind source = .ok t) (hs : Plain source) {record : Record} {f : Fragment}
    (h : t.bind record = .ok f) : f.Balanced := by
  unfold Template.bind at h
  rw [bind_eq_ok] at h
  obtain ⟨parts, hparts, h⟩ := h
  rw [pure_eq_ok] at h
  subst h
  have hall : ∀ part ∈ parts, part.Balanced := by
    intro part hm
    obtain ⟨segment, hseg, hpart⟩ := exists_of_mem_mapM hparts hm
    unfold bindSegment at hpart
    split at hpart
    · cases hpart
      exact Fragment.balanced_ofText.2 (Text.plain_ofList.2 (plain_literal hp hs hseg))
    · dsimp only at hpart
      split at hpart
      · cases hpart
      · rw [map_eq_ok] at hpart
        obtain ⟨arg, -, rfl⟩ := hpart
        exact Fragment.balanced_argument arg
  clear hparts
  induction parts with
  | nil => exact Fragment.balanced_ofText.2 (by decide)
  | cons part parts ih =>
    exact (hall part List.mem_cons_self).append
      (ih fun p hm => hall p (List.mem_cons_of_mem _ hm))

end CriteriaSql
