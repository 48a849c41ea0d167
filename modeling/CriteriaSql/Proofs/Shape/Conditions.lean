/-
  The texts of conditions and join clauses by the shapes of values. Of a value only its shape
  decides about a text: whether it is there, which flag it is, and how many items it has. For one
  column the text is a function of the shape (`text_compare`); the other forms of conditions are
  compared in two runs whose values have the same shape.
-/
import CriteriaSql.Proofs.Forms

namespace CriteriaSql

/-! ## Shapes -/

/-- What of a value may show in a text. -/
inductive Shape
  | absent
  | flag (b : Bool)
  | list (size : Nat)
  | other
  deriving DecidableEq, Repr

namespace FieldValue

/-- The shape of a value. -/
def shape : FieldValue → Shape
  | absent => .absent
  | flag b => .flag b
  | list items => .list items.length
  | _ => .other

theorem isAbsent_eq (value : FieldValue) : value.isAbsent = (value.shape == .absent) := by
  cases value <;> rfl

theorem isIdle_eq (value : FieldValue) :
    value.isIdle = (value.shape == .absent || value.shape == .flag false) := by
  cases value with
  | flag b => cases b <;> rfl
  | _ => rfl

end FieldValue

/-! ## Texts -/

namespace Fragment

theorem text_concat (fs : List Fragment) : (concat fs).text = String.join (fs.map text) := by
  induction fs with
  | nil => rfl
  | cons f fs ih => rw [List.map_cons, String.join_cons, ← ih]; rfl

theorem text_joinWith (separator : String) (fs : List Fragment) :
    (joinWith separator fs).text = separator.intercalate (fs.map text) := by
  fun_induction joinWith separator fs with
  | case1 => rfl
  | case2 f => simp
  | case3 f g fs ih =>
    have hne : (g :: fs).map text ≠ [] := by simp
    rw [List.map_cons, String.intercalate_cons_of_ne_nil hne, ← ih]
    rfl

end Fragment

/-! ## One column -/

/-- The text of a comparison with a value of the given shape. -/
def Operator.comparison (op : Operator) (column : String) (shape : Shape) : Option String :=
  match op, shape with
  | .isNull, _ | .notNull, _ => some (column ++ op.sql)
  | .noneOf, .list 0 => none
  | .oneOf, .list n | .noneOf, .list n => some (column ++ op.sql ++ Fragment.placeholderList n)
  | _, _ => some (column ++ op.sql ++ "?")

theorem Operand.text_argumentList {x : Operand} {items : List FieldValue} {args : List Scalar}
    (h : x.bindItems items = .ok args) :
    (Fragment.argumentList args).text = Fragment.placeholderList items.length := by
  unfold Fragment.argumentList
  rw [length_of_mapM h]

/-- The text of a comparison is a function of the shape of the value. -/
theorem Operand.text_compare {x : Operand} {column : String} {op : Operator}
    {result : Option Fragment} (h : x.compare column op = .ok result) :
    result.map Fragment.text = op.comparison column x.value.shape := by
  have single : ∀ {head : String} {r : Option Fragment},
      (if x.value.isCompound then x.refuse (.needsSingle op)
        else do
          let arg ← x.bind
          pure (some (Fragment.ofText head ++ Fragment.argument arg))) = .ok r →
        r.map Fragment.text = some (head ++ "?") := by
    intro head r hr
    split at hr
    · cases hr
    · simp only [bind_eq_ok, pure_eq_ok] at hr
      obtain ⟨arg, -, rfl⟩ := hr
      rfl
  cases op with
  | isNull | notNull =>
    cases h
    rfl
  | like =>
    simp only [compare] at h
    split at h
    · cases h
      rfl
    · cases h
  | oneOf | noneOf =>
    simp only [compare] at h
    split at h
    next heq =>
      cases h
      rw [heq]
      rfl
    next items hne heq =>
      simp only [bind_eq_ok, pure_eq_ok] at h
      obtain ⟨args, hargs, rfl⟩ := h
      rw [heq, Option.map_some, Fragment.text_append, text_argumentList hargs]
      cases items with
      | nil => exact (hne rfl).elim
      | cons item items => rfl
    next => cases h
  | eq | ne | gt | ge | lt | le => exact single h

/-! ## Forms -/

section Forms

/-- Two operands for the same field whose values have the same shape. -/
structure Operand.Alike (x y : Operand) : Prop where
  field : x.field = y.field
  shape : x.value.shape = y.value.shape

variable {x y : Operand}

theorem Operand.Alike.compare (h : x.Alike y) (column : String) (op : Operator) :
    Agree (Option.map Fragment.text) (x.compare column op) (y.compare column op) := by
  intro a b ha hb
  rw [text_compare ha, text_compare hb, h.shape]

namespace Condition

theorem map_text_filterMap (found : List (Option Fragment)) :
    (found.filterMap id).map Fragment.text =
      (found.map (Option.map Fragment.text)).filterMap id := by
  rw [List.map_filterMap, List.filterMap_map]
  rfl

theorem agree_anyOf (h : x.Alike y) (tests : List ColumnTest) :
    Agree (Option.map Fragment.text) (anyOf x tests) (anyOf y tests) := by
  have htests := Agree.mapM (Option.map Fragment.text) tests
    fun t _ => h.compare t.column t.operator
  refine htests.bind fun a b hab => ?_
  have htexts : (a.filterMap id).map Fragment.text = (b.filterMap id).map Fragment.text := by
    rw [map_text_filterMap, map_text_filterMap, hab]
  generalize a.filterMap id = fs at htexts
  generalize b.filterMap id = gs at htexts
  have hlength : fs.length = gs.length := by
    simpa using congrArg List.length htexts
  match fs, gs with
  | [], [] => exact .ok rfl
  | [f], [g] => exact .ok (by simpa using htexts)
  | f :: f' :: fs, g :: g' :: gs =>
    refine .ok ?_
    have hjoin := Fragment.text_joinWith " OR " (f :: f' :: fs)
    rw [htexts, ← Fragment.text_joinWith] at hjoin
    simp only [Option.map_some, Fragment.parenthesized, Fragment.text_append, hjoin]

theorem text_nestedQuery {tail tail' : Fragment} (h : tail.text = tail'.text) (level : Level)
    (levels : List Level) :
    (nestedQuery tail level levels).text = (nestedQuery tail' level levels).text := by
  induction levels generalizing level with
  | nil => simp only [nestedQuery, Fragment.text_append, h]
  | cons next levels ih => simp only [nestedQuery, Fragment.text_append, ih next]

theorem agree_nested (h : x.Alike y) (column : String) (queries : NestedQueries) (op : Operator) :
    Agree (Option.map Fragment.text) (nested x column queries op)
      (nested y column queries op) := by
  unfold nested
  split
  · exact .refl _ _
  next level levels _ =>
    dsimp only
    split
    · refine (h.compare _ op).bind fun a b hab => .ok ?_
      match a, b with
      | none, none => rfl
      | some c, some c' =>
        have htail : (" WHERE " ++ c : Fragment).text = (" WHERE " ++ c' : Fragment).text := by
          rw [Fragment.text_append, Fragment.text_append, Option.some.inj hab]
        have htext := text_nestedQuery htail level levels
        simp only [Option.map_some, Fragment.text_append, htext]
    · exact .refl _ _

theorem text_pathQuery {c c' : Fragment} (h : c.text = c'.text) (hop : Hop) (hops : List Hop) :
    (pathQuery c hop hops).text = (pathQuery c' hop hops).text := by
  induction hops generalizing c c' hop with
  | nil => simp only [pathQuery_nil, hopQuery, Fragment.text_append, h]
  | cons next hops ih =>
    rw [pathQuery_cons, pathQuery_cons]
    exact ih (by simp only [hopQuery, Fragment.text_append, h]) next

theorem agree_domainPath (h : x.Alike y) (s : Settings) (path : DomainPath) (op : Operator) :
    Agree (Option.map Fragment.text) (domainPath x s path op) (domainPath y s path op) := by
  unfold domainPath
  rw [h.field]
  dsimp only
  split
  · exact .refl _ _
  next key _ _ =>
    refine (h.compare key op).bind fun a b hab => ?_
    match a, b with
    | none, none => exact .refl _ _
    | some c, some c' =>
      refine .bind_same fun steps _ => .ok ?_
      have htext := text_pathQuery (Option.some.inj hab) steps.1 steps.2
      simp only [Option.map_some, Fragment.text_append, htext]

end Condition

end Forms

/-! ## Fields -/

theorem FieldPlan.agree_condition (plan : FieldPlan FilterForm) (s : Settings)
    {v w : FieldValue} (h : v.shape = w.shape) :
    Agree (Option.map Fragment.text) (plan.condition s v) (plan.condition s w) := by
  have hx : Operand.Alike ⟨plan.name, plan.encoding, v⟩ ⟨plan.name, plan.encoding, w⟩ := ⟨rfl, h⟩
  unfold condition
  rw [FieldValue.isIdle_eq v, FieldValue.isIdle_eq w, h]
  dsimp only
  split
  · exact .refl _ _
  split
  next op _ => exact hx.compare plan.column op
  next tests _ => exact Condition.agree_anyOf hx tests
  next template _ =>
    intro a b ha hb
    obtain ⟨f, hf, rfl⟩ := map_eq_ok.1 ha
    obtain ⟨g, hg, rfl⟩ := map_eq_ok.1 hb
    rw [Option.map_some, Option.map_some, (Condition.custom_eq_ok hf).1,
      (Condition.custom_eq_ok hg).1]
  next select source op _ =>
    refine (hx.compare plan.column op).bind fun a b hab => .ok ?_
    match a, b with
    | none, none => rfl
    | some c, some c' =>
      have htext : c.text = c'.text := Option.some.inj hab
      simp only [Option.map_some, Condition.subQuery, Fragment.text_append, htext]
  next queries op _ => exact Condition.agree_nested hx plan.column queries op
  next path op _ => exact Condition.agree_domainPath hx s path op

theorem CriteriaSchema.agree_conditions (schema : CriteriaSchema) (s : Settings)
    {r r' : Record} (taken : Option Template)
    (h : ∀ plan ∈ schema.fields, (r.get plan.name).shape = (r'.get plan.name).shape) :
    Agree (List.map Fragment.text) (schema.conditions s r taken)
      (schema.conditions s r' taken) := by
  unfold conditions
  dsimp only
  refine (Agree.mapM (Option.map Fragment.text) _ fun plan hp => ?_).bind
    fun a b hab => .ok ?_
  · exact plan.agree_condition s (h plan (List.mem_filter.1 hp).1)
  · rw [Condition.map_text_filterMap, Condition.map_text_filterMap, hab]

/-! ## Templates -/

namespace Template

/-- A join clause has the same text whatever is bound in it. -/
theorem agree_bind (t : Template) (r r' : Record) :
    Agree Fragment.text (t.bind r) (t.bind r') := by
  unfold bind
  refine (Agree.mapM Fragment.text _ fun segment _ => ?_).bind fun a b hab => .ok ?_
  · cases segment with
    | literal text => exact .refl _ _
    | field name =>
      intro f g hf hg
      simp only [bindSegment] at hf hg
      split at hf
      · cases hf
      split at hg
      · cases hg
      obtain ⟨a, -, rfl⟩ := map_eq_ok.1 hf
      obtain ⟨b, -, rfl⟩ := map_eq_ok.1 hg
      rfl
  · rw [Fragment.text_concat, Fragment.text_concat, hab]

/-- The text of a template depends on no more than the fields it refers to. -/
theorem render_congr {t : Template} {r r' : Record}
    (h : ∀ name ∈ t.fieldNames, r.get name = r'.get name) : t.render r = t.render r' := by
  unfold render
  have hsegments : t.segments.mapM (t.renderSegment r) = t.segments.mapM (t.renderSegment r') := by
    refine mapM_congr fun segment hm => ?_
    cases segment with
    | literal text => rfl
    | field name =>
      have hname : name ∈ t.fieldNames := List.mem_filterMap.2 ⟨_, hm, rfl⟩
      simp only [renderSegment, h name hname]
  rw [hsegments]

end Template

end CriteriaSql
