/-
  Which errors a computation can fail with. `Avoids kind x` says that no failure of `x` is of the
  given kind, and it is kept by every way of putting steps together. What is computed from values
  never blames a path, and neither do the conditions and filters of schemas that are built; the
  clause of a relation blames its path where the key is missing, and only there.
-/
import CriteriaSql.Proofs.Comparison
import CriteriaSql.Proofs.Path.Reachability
import CriteriaSql.Proofs.Placeholder.Declarations
import Mathlib

namespace CriteriaSql

/-! ## Kinds of errors -/

/-- An error that blames a path: its declaration, or a step that it does not have. -/
def Error.BlamesPath : Error → Prop
  | .invalidDomainPath _ _ | .noStep _ => True
  | _ => False

/-- No failure is of the given kind. -/
def Avoids {α : Type} (kind : Error → Prop) (x : Except Error α) : Prop :=
  ∀ e, x = .error e → ¬kind e

namespace Avoids

variable {α β : Type} {kind : Error → Prop}

theorem ok {a : α} : Avoids kind (.ok a) := by
  intro e he
  cases he

theorem error {e : Error} (h : ¬kind e) : Avoids kind (.error e : Except Error α) := by
  intro e' he
  cases he
  exact h

theorem bind {x : Except Error α} {k : α → Except Error β} (hx : Avoids kind x)
    (hk : ∀ a, x = .ok a → Avoids kind (k a)) : Avoids kind (x >>= k) := by
  intro e he
  cases hcase : x with
  | error e' =>
    rw [hcase] at he
    cases he
    exact hx e hcase
  | ok a =>
    rw [hcase] at he
    exact hk a hcase e he

theorem map {x : Except Error α} {f : α → β} (hx : Avoids kind x) : Avoids kind (x.map f) :=
  fun e he => hx e (map_eq_error.1 he)

theorem mapError {ε : Type} {x : Except ε α} {f : ε → Error} (hf : ∀ e, ¬kind (f e)) :
    Avoids kind (x.mapError f) := by
  intro e he
  cases x with
  | error e' =>
    cases he
    exact hf e'
  | ok a => cases he

theorem mapM {xs : List α} {f : α → Except Error β} (h : ∀ x ∈ xs, Avoids kind (f x)) :
    Avoids kind (xs.mapM f) := by
  intro e he
  obtain ⟨before, x, after, rfl, -, hx⟩ := mapM_eq_error.1 he
  exact h x (by simp) e hx

end Avoids

open Error (BlamesPath)

/-! ## Values -/

theorem FieldValue.avoids_operand (value : FieldValue) (field : String) (encoding : Encoding) :
    Avoids BlamesPath (value.operand field encoding) :=
  .mapError fun _ h => h

theorem FieldValue.avoids_bind (value : FieldValue) (field : String) (encoding : Encoding) :
    Avoids BlamesPath (value.bind field encoding) :=
  .mapError fun _ h => h

theorem Record.avoids_read (typeName : String) (value : Datum) :
    Avoids BlamesPath (Record.read typeName value) := by
  unfold read
  split
  · exact .ok
  · exact .error id
  · exact .error id
  · exact .error id

theorem Page.avoids_orderBy (page : Page) (mapCamelCase : Bool) :
    Avoids BlamesPath (page.orderBy mapCamelCase) := by
  unfold orderBy
  split
  next sort =>
    refine .bind (.mapM fun segment _ => ?_) fun items _ => ?_
    · split
      · exact .ok
      · exact .error id
    · split <;> exact .ok
  · exact .ok

namespace Template

theorem avoids_render (t : Template) (record : Record) :
    Avoids BlamesPath (t.render record) := by
  refine .bind (.mapM fun segment _ => ?_) fun _ _ => .ok
  cases segment with
  | literal text => exact .ok
  | field name =>
    refine .bind ?_ fun text _ => ?_
    · refine .bind (FieldValue.avoids_operand _ _ _) fun j _ => ?_
      split
      · exact .error id
      · exact .ok
      · exact .ok
    · dsimp only
      split
      · exact .ok
      · exact .error id

theorem avoids_bind (t : Template) (record : Record) : Avoids BlamesPath (t.bind record) := by
  refine .bind (.mapM fun segment _ => ?_) fun _ _ => .ok
  cases segment with
  | literal text => exact .ok
  | field name =>
    unfold bindSegment
    dsimp only
    split
    · exact .error id
    · exact .map (FieldValue.avoids_bind _ _ _)

end Template

/-! ## Conditions and filters -/

namespace Operand

variable (x : Operand)

theorem avoids_refuse {α : Type} (fault : ShapeFault) :
    Avoids BlamesPath (x.refuse fault : Except Error α) :=
  .error id

theorem avoids_comparison (t : ColumnTest) : Avoids BlamesPath (x.comparison t) := by
  obtain ⟨column, op⟩ := t
  refine .map ?_
  cases op with
  | isNull | notNull => exact .ok
  | oneOf | noneOf =>
    unfold comparand itemsComparand
    dsimp only
    split
    · split
      · exact .ok
      · exact .map (.mapM fun item _ => FieldValue.avoids_operand _ _ _)
    · exact x.avoids_refuse _
  | like =>
    unfold comparand partComparand
    dsimp only
    split
    · exact .ok
    · exact x.avoids_refuse _
  | eq | ne | gt | ge | lt | le =>
    unfold comparand valueComparand
    dsimp only
    split
    · exact x.avoids_refuse _
    · exact .map (FieldValue.avoids_operand _ _ _)

theorem avoids_compare (column : String) (op : Operator) :
    Avoids BlamesPath (x.compare column op) := by
  rw [x.compare_eq_comparison ⟨column, op⟩]
  exact .map (x.avoids_comparison _)

theorem avoids_test (column : String) (op : Operator) :
    Avoids BlamesPath (x.test column op) := by
  rw [x.test_eq_comparison ⟨column, op⟩]
  exact .map (x.avoids_comparison _)

end Operand

namespace Condition

variable (x : Operand)

theorem avoids_custom (template : String) : Avoids BlamesPath (custom x template) := by
  have honce : Avoids BlamesPath (x.bind >>= fun arg =>
      pure (Fragment.mk template (List.replicate (Text.countChar '?' template) arg))) :=
    .bind (FieldValue.avoids_bind _ _ _) fun _ _ => .ok
  unfold custom
  dsimp only
  split
  · exact .ok
  · split
    · split
      · exact .bind (.mapM fun item _ => FieldValue.avoids_bind _ _ _) fun _ _ => .ok
      · exact honce
    · exact honce

theorem avoids_nested (column : String) (queries : NestedQueries) (op : Operator) :
    Avoids BlamesPath (nested x column queries op) := by
  unfold nested
  split
  · exact .ok
  · dsimp only
    split
    · exact .bind (x.avoids_compare _ _) fun _ _ => .ok
    · exact .ok

theorem avoids_domainPath (s : Settings) {path : DomainPath} (op : Operator)
    (hlong : 2 ≤ path.domains.length) : Avoids BlamesPath (domainPath x s path op) := by
  obtain ⟨hop, hops, hhops⟩ := path.exists_hops s (readsFromEnd path x.field) hlong
  rw [domainPath_eq_map hhops]
  exact .map (x.avoids_compare _ _)

end Condition

/-- A plan whose path, if it has one, leads from one domain to another. -/
def FieldPlan.HasSteps (plan : FieldPlan FilterForm) : Prop :=
  ∀ path op, plan.kind = .domainPath path op → 2 ≤ path.domains.length

theorem FieldPlan.avoids_condition {plan : FieldPlan FilterForm} (hplan : plan.HasSteps)
    (s : Settings) (value : FieldValue) : Avoids BlamesPath (plan.condition s value) := by
  let x : Operand := ⟨plan.name, plan.encoding, value⟩
  unfold condition
  dsimp only
  split
  · exact .ok
  split
  next => exact x.avoids_compare _ _
  next => exact .bind (.mapM fun t _ => x.avoids_compare _ _) fun found _ => by split <;> exact .ok
  next => exact .map (Condition.avoids_custom x _)
  next => exact .bind (x.avoids_compare _ _) fun _ _ => .ok
  next => exact Condition.avoids_nested x _ _ _
  next path op hkind => exact Condition.avoids_domainPath x s op (hplan path op hkind)

theorem FieldPlan.avoids_filterClause (plan : FieldPlan FilterForm) (value : FieldValue) :
    Avoids BlamesPath (plan.filterClause value) := by
  let x : Operand := ⟨plan.name, plan.encoding, value⟩
  unfold filterClause
  dsimp only
  split
  · exact .ok
  split
  next => exact .map (x.avoids_test _ _)
  next => exact .bind (.mapM fun t _ => x.avoids_test _ _) fun _ _ => .ok
  next => exact x.avoids_refuse _

namespace CriteriaSchema

theorem Built.hasSteps {type : RecordType} {mapCamelCase : Bool} {names : List String}
    {schema : CriteriaSchema} (h : schema.Built type mapCamelCase names)
    {plan : FieldPlan FilterForm} (hplan : plan ∈ schema.fields) : plan.HasSteps :=
  fun _ _ hkind => (DomainPath.domains_of_validate (h.validate_of_domainPath hplan hkind)).1

/-- The conditions of a criteria schema that is built never blame a path. -/
theorem avoids_conditions {type : RecordType} {mapCamelCase : Bool} {schema : CriteriaSchema}
    (h : type.criteriaSchema mapCamelCase = .ok schema) (s : Settings) (record : Record)
    (taken : Option Template) : Avoids BlamesPath (schema.conditions s record taken) := by
  obtain ⟨names, hbuilt⟩ := RecordType.criteriaSchema_built h
  refine .bind (.mapM fun plan hplan => ?_) fun _ _ => .ok
  exact FieldPlan.avoids_condition (hbuilt.hasSteps (List.mem_filter.1 hplan).1) s _

theorem avoids_filter (schema : CriteriaSchema) (record : Record) :
    Avoids BlamesPath (schema.filter record) :=
  .bind (.mapM fun plan _ => plan.avoids_filterClause _) fun _ _ => .ok

end CriteriaSchema

/-! ## Relations -/

namespace Related

/-- The criteria of a filter, if there is one, were accepted. -/
def Accepted (s : Settings) (filter : Option Filter) : Prop :=
  ∀ f ∈ filter, ∃ type : RecordType, type.criteriaSchema s.mapCamelCase = .ok f.schema

theorem accepted_none (s : Settings) : Accepted s none := by
  intro f hf
  cases hf

theorem accepted_of_query {s : Settings} {q : Query} {criteria : CriteriaSchema}
    (h : q.schema s = .ok criteria) (record : Record) :
    Accepted s (some ⟨criteria, record, q.page⟩) := by
  intro f hf
  cases hf
  exact ⟨q.type, h⟩

theorem avoids_restriction {s : Settings} {filter : Option Filter} (h : Accepted s filter) :
    Avoids BlamesPath (restriction s filter) := by
  cases filter with
  | none => exact .ok
  | some f =>
    obtain ⟨type, hschema⟩ := h f rfl
    refine .bind (CriteriaSchema.avoids_conditions hschema s _ _) fun _ _ => ?_
    exact .bind (f.page.avoids_orderBy _) fun _ _ => .ok

/-- The clause of a relation is refused where the path lacks its key, and only there. -/
theorem relationClause_cases {s : Settings} {field columns ownerTable : String}
    {relation : Relation} (hsome : relation.path.domains ≠ []) :
    relation.path.LacksKey ∧ relationClause s field columns ownerTable relation =
        .error (.invalidDomainPath field .noRelationKey) ∨
      ¬relation.path.LacksKey ∧
        ∃ clause, relationClause s field columns ownerTable relation = .ok clause := by
  unfold DomainPath.LacksKey
  by_cases hone : relation.path.domains.length = 1
  · obtain ⟨domain, hdomain⟩ := List.length_eq_one_iff.1 hone
    unfold relationClause
    rw [hdomain]
    cases hkey : relation.path.foreignKey with
    | none => exact Or.inl ⟨⟨rfl, rfl⟩, rfl⟩
    | some key => exact Or.inr ⟨fun h => absurd h.2 (Option.some_ne_none key), _, rfl⟩
  · have hlong := DomainPath.two_le_of_ne_one hsome hone
    obtain ⟨first, rest, hdomains⟩ := List.exists_cons_of_ne_nil hsome
    obtain ⟨hop, hops, hhops⟩ :=
      relation.path.exists_hops s (readsFromEnd s ownerTable first) hlong
    have hfirst : relation.path.domains.head? = some first := by rw [hdomains]; rfl
    exact Or.inr ⟨fun h => hone h.1, _, relationClause_of_hops field columns hfirst hlong hhops⟩

end Related

theorem Query.avoids_record (q : Query) : Avoids BlamesPath q.record := Record.avoids_read _ _

end CriteriaSql
