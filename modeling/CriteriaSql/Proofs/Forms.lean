/-
  What conditions are made of: one lemma for each form of a field, saying which comparisons have to
  succeed for a condition and how the condition is made of what they give.
-/
import CriteriaSql.Proofs.Assembly
import CriteriaSql.Proofs.Path.Steps

namespace CriteriaSql

variable {x : Operand} {s : Settings} {f : Fragment}

namespace Condition

/-! ## Alternatives -/

/-- Alternatives are in parentheses, unless there is only one left. -/
theorem anyOf_eq_some {tests : List ColumnTest} (h : anyOf x tests = .ok (some f)) :
    ∃ found, tests.mapM (fun t => x.compare t.column t.operator) = .ok found ∧
      (found.filterMap id = [f] ∨
        f = (Fragment.joinWith " OR " (found.filterMap id)).parenthesized) := by
  obtain ⟨found, hfound, h⟩ := bind_eq_ok.1 h
  refine ⟨found, hfound, ?_⟩
  split at h
  · cases h
  next g heq =>
    cases h
    exact Or.inl heq
  next =>
    cases h
    exact Or.inr rfl

/-- An alternative that is left is the comparison of one of the columns. -/
theorem exists_test_of_mem {tests : List ColumnTest} {found : List (Option Fragment)}
    (hfound : tests.mapM (fun t => x.compare t.column t.operator) = .ok found)
    (hf : f ∈ found.filterMap id) :
    ∃ test ∈ tests, x.compare test.column test.operator = .ok (some f) := by
  obtain ⟨o, ho, rfl⟩ := List.mem_filterMap.1 hf
  exact exists_of_mem_mapM hfound ho

/-! ## Conditions as written -/

/-- A condition as written has the text that is written. It binds nothing without placeholders,
    else the items of a collection of as many items, else the value for each placeholder. -/
theorem custom_eq_ok {template : String} (h : custom x template = .ok f) :
    f.text = template ∧
      (Text.countChar '?' template = 0 ∧ f.args = [] ∨
        Text.countChar '?' template ≠ 0 ∧
          ((∃ items, x.value = .list items ∧ items.length = Text.countChar '?' template ∧
              x.bindItems items = .ok f.args) ∨
            (∀ items, x.value = .list items → items.length ≠ Text.countChar '?' template) ∧
              ∃ arg, x.bind = .ok arg ∧
                f.args = List.replicate (Text.countChar '?' template) arg)) := by
  have once (h : (do
      let arg ← x.bind
      pure ⟨template, List.replicate (Text.countChar '?' template) arg⟩ :
        Except Error Fragment) = .ok f) :
      f.text = template ∧ ∃ arg, x.bind = .ok arg ∧
        f.args = List.replicate (Text.countChar '?' template) arg := by
    simp only [bind_eq_ok, pure_eq_ok] at h
    obtain ⟨arg, harg, rfl⟩ := h
    exact ⟨rfl, arg, harg, rfl⟩
  unfold custom at h
  dsimp only at h
  split at h
  next hzero =>
    cases h
    exact ⟨rfl, Or.inl ⟨hzero, rfl⟩⟩
  next hcount =>
    split at h
    next items heq =>
      split at h
      next hlength =>
        simp only [bind_eq_ok, pure_eq_ok] at h
        obtain ⟨args, hargs, rfl⟩ := h
        exact ⟨rfl, Or.inr ⟨hcount, Or.inl ⟨items, heq, hlength, hargs⟩⟩⟩
      next hlength =>
        obtain ⟨htext, hargs⟩ := once h
        refine ⟨htext, Or.inr ⟨hcount, Or.inr ⟨fun others hothers => ?_, hargs⟩⟩⟩
        rw [heq, FieldValue.list.injEq] at hothers
        exact hothers ▸ hlength
    next hsingle =>
      obtain ⟨htext, hargs⟩ := once h
      exact ⟨htext, Or.inr ⟨hcount, Or.inr ⟨fun items heq => (hsingle items heq).elim, hargs⟩⟩⟩

/-! ## Queries within queries -/

/-- Nested queries end in a comparison, if they have a condition at all. -/
theorem nested_eq_some {column : String} {queries : NestedQueries} {op : Operator}
    (h : nested x column queries op = .ok (some f)) :
    ∃ level levels tail, queries.levels = level :: levels ∧
      f = queries.column ++ " IN (" ++ nestedQuery tail level levels ++ ")" ∧
      (queries.appendWhere = true ∧ (∃ g : Fragment, tail = " WHERE " ++ g ∧
          x.compare ((levels.getLastD level).where?.getD column) op = .ok (some g)) ∨
        queries.appendWhere = false ∧ tail = .empty) := by
  unfold nested at h
  split at h
  · cases h
  next level levels heq =>
    dsimp only at h
    split at h
    next happend =>
      simp only [bind_eq_ok, pure_eq_ok, Option.map_eq_some_iff] at h
      obtain ⟨condition, hcondition, g, rfl, rfl⟩ := h
      exact ⟨level, levels, _, heq, rfl, Or.inl ⟨happend, g, rfl, hcondition⟩⟩
    next hbare =>
      cases h
      exact ⟨level, levels, _, heq, rfl, Or.inr ⟨Bool.eq_false_iff.2 hbare, rfl⟩⟩

/-- A path filter compares the key from which its first step starts. -/
theorem domainPath_eq_some {path : DomainPath} {op : Operator}
    (h : domainPath x s path op = .ok (some f)) :
    ∃ hop hops g, (path.expand s (readsFromEnd path x.field)).hops = hop :: hops ∧
      x.compare hop.source op = .ok (some g) ∧ f = "id IN (" ++ pathQuery g hop hops ++ ")" := by
  unfold domainPath at h
  dsimp only at h
  split at h
  · cases h
  next key keys heq =>
    obtain ⟨condition, hcondition, h⟩ := bind_eq_ok.1 h
    split at h
    · cases h
    next g =>
      simp only [bind_eq_ok, pure_eq_ok, Option.some.injEq] at h
      obtain ⟨⟨hop, hops⟩, hsteps, rfl⟩ := h
      rw [ExpandedPath.steps_eq_ok] at hsteps
      have hkey := ExpandedPath.head?_joinIds hsteps
      rw [heq, List.head?_cons, Option.some.injEq] at hkey
      exact ⟨hop, hops, g, hsteps, hkey ▸ hcondition, rfl⟩

end Condition

/-! ## Fields -/

/-- The fragment is the condition of a form for the field of a column. -/
def FilterForm.Poses (x : Operand) (column : String) (s : Settings) (f : Fragment) :
    FilterForm → Prop
  | .simple op => x.compare column op = .ok (some f)
  | .anyOf tests => Condition.anyOf x tests = .ok (some f)
  | .custom template => Condition.custom x template = .ok f
  | .subQuery select source op =>
    ∃ g, x.compare column op = .ok (some g) ∧ f = Condition.subQuery select source g
  | .nested queries op => Condition.nested x column queries op = .ok (some f)
  | .domainPath path op => Condition.domainPath x s path op = .ok (some f)

/-- The condition of a field is the one of its form, for a value that is there. -/
theorem FieldPlan.poses_of_condition {plan : FieldPlan FilterForm} {value : FieldValue}
    (h : plan.condition s value = .ok (some f)) :
    value.isIdle = false ∧
      plan.kind.Poses ⟨plan.name, plan.encoding, value⟩ plan.column s f := by
  obtain ⟨name, column, kind, encoding⟩ := plan
  unfold condition at h
  dsimp only at h ⊢
  split at h
  · cases h
  next hidle =>
    refine ⟨Bool.eq_false_iff.2 hidle, ?_⟩
    cases kind with
    | custom template =>
      obtain ⟨g, hg, hf⟩ := map_eq_ok.1 h
      cases hf
      exact hg
    | subQuery select source op =>
      simp only [bind_eq_ok, pure_eq_ok, Option.map_eq_some_iff] at h
      obtain ⟨condition, hcondition, g, rfl, rfl⟩ := h
      exact ⟨g, hcondition, rfl⟩
    | simple _ | anyOf _ | nested _ _ | domainPath _ _ => exact h

/-- Each condition of a record is that of one of the fields. -/
theorem CriteriaSchema.exists_plan_of_mem {schema : CriteriaSchema} {record : Record}
    {taken : Option Template} {cs : List Fragment}
    (hcs : schema.conditions s record taken = .ok cs) (hf : f ∈ cs) :
    ∃ plan ∈ schema.fields, plan.condition s (record.get plan.name) = .ok (some f) := by
  obtain ⟨found, hfound, rfl⟩ := conditions_eq_ok.1 hcs
  obtain ⟨o, ho, rfl⟩ := List.mem_filterMap.1 hf
  obtain ⟨plan, hplan, hcondition⟩ := exists_of_mem_mapM hfound ho
  exact ⟨plan, (List.mem_filter.1 hplan).1, hcondition⟩

end CriteriaSql
