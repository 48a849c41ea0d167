/-
  Comparisons: what conditions and document filters have in common. A criteria field asks for
  comparisons of columns with operands that come from its value. A condition writes them in SQL, a
  filter writes them as documents; apart from that the two are one compilation. Where one of them
  leaves a comparison out or refuses a value, so does the other. One table has the words of every
  operator in both notations, and the clauses read in the document of a filter are those of the
  conditions, comparison by comparison (`conditions_filter_alike`).
-/
import CriteriaSql.Lookup.Filter
import CriteriaSql.Proofs.Lookup.FilterDocument
import CriteriaSql.Proofs.Outcome
import Mathlib

namespace CriteriaSql

/-! ## Leaving out -/

section Collect

variable {ε α β γ : Type}

/-- The results of a traversal, less those that are left out. -/
def collect (f : α → Except ε (Option β)) (xs : List α) : Except ε (List β) :=
  (xs.mapM f).map (List.filterMap id)

theorem collect_congr {f g : α → Except ε (Option β)} {xs : List α} (h : ∀ x ∈ xs, f x = g x) :
    collect f xs = collect g xs := by
  unfold collect
  rw [mapM_congr h]

theorem collect_map (f : α → Except ε (Option β)) (view : β → γ) (xs : List α) :
    collect (fun x => (f x).map (Option.map view)) xs = (collect f xs).map (List.map view) := by
  unfold collect
  rw [mapM_map]
  cases xs.mapM f with
  | error e => rfl
  | ok found =>
    have hfound : (found.map (Option.map view)).filterMap id = (found.filterMap id).map view := by
      rw [List.filterMap_map, List.map_filterMap]
      rfl
    exact congrArg Except.ok hfound

/-- A view of what is collected may be taken where each result still stands beside its input. -/
theorem collect_paired (f : α → Except ε (Option β)) (view : β → γ) (xs : List α) :
    (collect (fun x => (f x).map (Option.map (Prod.mk x))) xs).map (List.map fun c => view c.2) =
      collect (fun x => (f x).map (Option.map view)) xs := by
  rw [← collect_map]
  refine collect_congr fun x _ => ?_
  cases f x with
  | error e => rfl
  | ok found => cases found <;> rfl

theorem mapM_bind_pure (f : α → Except ε (Option β)) (view : List β → γ) (xs : List α) :
    (xs.mapM f >>= fun found => pure (view (found.filterMap id))) = (collect f xs).map view := by
  unfold collect
  cases xs.mapM f <;> rfl

theorem exists_of_mem_collect {f : α → Except ε (Option β)} {xs : List α} {ys : List β}
    (h : collect f xs = .ok ys) {y : β} (hy : y ∈ ys) : ∃ x ∈ xs, f x = .ok (some y) := by
  obtain ⟨found, hfound, rfl⟩ := map_eq_ok.1 h
  obtain ⟨o, ho, rfl⟩ := List.mem_filterMap.1 hy
  exact exists_of_mem_mapM hfound ho

/-- Where a traversal succeeds, each input gave something that is collected, or was left out. -/
theorem mem_collect_of_mem {f : α → Except ε (Option β)} {xs : List α} {ys : List β}
    (h : collect f xs = .ok ys) {x : α} (hx : x ∈ xs) :
    f x = .ok none ∨ ∃ y ∈ ys, f x = .ok (some y) := by
  obtain ⟨found, hfound, rfl⟩ := map_eq_ok.1 h
  obtain ⟨o, ho, hx⟩ := exists_mem_of_mapM hfound hx
  cases o with
  | none => exact Or.inl hx
  | some y => exact Or.inr ⟨y, List.mem_filterMap.2 ⟨some y, ho, rfl⟩, hx⟩

/-- What is collected stands in the order of what it comes from. -/
theorem sublist_of_collect {f : α → Except ε (Option β)} {origin : β → α} {xs : List α}
    {ys : List β} (horigin : ∀ x y, f x = .ok (some y) → origin y = x)
    (h : collect f xs = .ok ys) : (ys.map origin).Sublist xs := by
  obtain ⟨found, hfound, rfl⟩ := map_eq_ok.1 h
  rw [mapM_eq_ok] at hfound
  clear h
  induction hfound with
  | nil => exact List.Sublist.slnil
  | @cons x o xs found hx _ ih =>
    cases o with
    | none => exact ih.cons x
    | some y =>
      have horig : origin y = x := horigin x y hx
      rw [show (some y :: found).filterMap id = y :: found.filterMap id from rfl, List.map_cons,
        horig]
      exact ih.cons_cons x

end Collect

/-! ## Operands -/

/-- What a column is compared with, before it is written. -/
inductive Comparand
  /-- A null check compares with nothing. -/
  | nothing
  /-- A value in its JSON form. -/
  | value (j : Json)
  /-- The items of a collection, each in its JSON form. -/
  | items (js : List Json)
  /-- A text that the column has to contain. -/
  | part (text : String)

/-- What each operator compares a column with for a field's value. -/
inductive Comparand.Of (value : FieldValue) (encoding : Encoding) : Operator → Comparand → Prop
  | nothing {op : Operator} (hop : op = .isNull ∨ op = .notNull) : Of value encoding op .nothing
  | items {op : Operator} {items : List FieldValue} {js : List Json}
      (hop : op = .oneOf ∨ op = .noneOf) (hvalue : value = .list items)
      (hjs : List.Forall₂ (fun item j => item.toJson encoding = .ok j) items js) :
      Of value encoding op (.items js)
  | part {text : String} (hvalue : value = .scalar (.text text)) :
      Of value encoding .like (.part text)
  | value {op : Operator} {j : Json} (hop : op ∈ [.eq, .ne, .gt, .ge, .lt, .le])
      (hvalue : value.isCompound = false) (hj : value.toJson encoding = .ok j) :
      Of value encoding op (.value j)

namespace FieldValue

/-- A single value has the JSON form of a scalar. -/
theorem exists_scalar_of_toJson {value : FieldValue} {encoding : Encoding} {j : Json}
    (hsingle : value.isCompound = false) (h : value.toJson encoding = .ok j) :
    ∃ v, j = .scalar v := by
  cases value with
  | absent | flag | scalar =>
    cases h
    exact ⟨_, rfl⟩
  | variant index name =>
    cases encoding <;>
    · cases h
      exact ⟨_, rfl⟩
  | list | record => cases hsingle
  | unsupported why => cases h

/-- An argument is the scalar of the operand. -/
theorem bind_eq_operand (value : FieldValue) (field : String) (encoding : Encoding) :
    value.bind field encoding = (value.operand field encoding).map Json.toScalar := by
  unfold bind operand toScalar
  cases value.toJson encoding <;> rfl

theorem operand_eq_ok {value : FieldValue} {field : String} {encoding : Encoding} {j : Json} :
    value.operand field encoding = .ok j ↔ value.toJson encoding = .ok j := by
  unfold operand
  rw [mapError_eq_ok]

/-- The operand of a collection is the array of the operands of its items. -/
theorem operand_list (items : List FieldValue) (field : String) (encoding : Encoding) :
    (list items).operand field encoding =
      (items.mapM fun item : FieldValue => item.operand field encoding).map Json.array := by
  have hitems : (itemsToJson encoding items).mapError
        (fun why => Error.valueShape field (.notBindable why)) =
      items.mapM fun item : FieldValue => item.operand field encoding := by
    induction items with
    | nil => rfl
    | cons item items ih =>
      rw [List.mapM_cons, ← ih, itemsToJson, operand]
      cases item.toJson encoding with
      | error why => rfl
      | ok j => cases itemsToJson encoding items <;> rfl
  rw [← hitems]
  unfold operand
  rw [toJson]
  cases itemsToJson encoding items <;> rfl

end FieldValue

namespace Operand

/-- The items of a collection in their JSON forms. -/
def itemOperands (x : Operand) (items : List FieldValue) : Except Error (List Json) :=
  items.mapM fun item => item.operand x.field x.encoding

/-- The items of a collection. The comparison that asks to be outside an empty one is left out. -/
def itemsComparand (x : Operand) (op : Operator) : Except Error (Option Comparand) :=
  match x.value with
  | .list items =>
    if op = .noneOf ∧ items = [] then .ok none
    else (x.itemOperands items).map fun js => some (.items js)
  | _ => x.refuse (.needsCollection op)

/-- A text that is to be contained. -/
def partComparand (x : Operand) : Except Error (Option Comparand) :=
  match x.value with
  | .scalar (.text text) => .ok (some (.part text))
  | _ => x.refuse (.needsText .like)

/-- A single value. -/
def valueComparand (x : Operand) (op : Operator) : Except Error (Option Comparand) :=
  if x.value.isCompound then x.refuse (.needsSingle op)
  else (x.value.operand x.field x.encoding).map fun j => some (.value j)

/-- What a column is compared with; nothing at all where the comparison is left out. -/
def comparand (x : Operand) (op : Operator) : Except Error (Option Comparand) :=
  match op with
  | .isNull | .notNull => .ok (some .nothing)
  | .oneOf | .noneOf => x.itemsComparand op
  | .like => x.partComparand
  | .eq | .ne | .gt | .ge | .lt | .le => x.valueComparand op

variable {x : Operand} {op : Operator} {o : Comparand}

theorem of_itemsComparand (hop : op = .oneOf ∨ op = .noneOf)
    (h : x.itemsComparand op = .ok (some o)) : o.Of x.value x.encoding op := by
  unfold itemsComparand at h
  split at h
  next items hvalue =>
    split at h
    · cases h
    · obtain ⟨js, hjs, ho⟩ := map_eq_ok.1 h
      cases ho
      refine .items hop hvalue ((mapM_eq_ok.1 hjs).imp fun item j hj => ?_)
      exact FieldValue.operand_eq_ok.1 hj
  · cases h

theorem of_partComparand (h : x.partComparand = .ok (some o)) :
    o.Of x.value x.encoding .like := by
  unfold partComparand at h
  split at h
  next text hvalue =>
    cases h
    exact .part hvalue
  · cases h

theorem of_valueComparand (hop : op ∈ [.eq, .ne, .gt, .ge, .lt, .le])
    (h : x.valueComparand op = .ok (some o)) : o.Of x.value x.encoding op := by
  unfold valueComparand at h
  split at h
  · cases h
  next hcompound =>
    obtain ⟨j, hj, ho⟩ := map_eq_ok.1 h
    cases ho
    rw [Bool.not_eq_true] at hcompound
    exact .value hop hcompound (FieldValue.operand_eq_ok.1 hj)

theorem of_comparand (h : x.comparand op = .ok (some o)) : o.Of x.value x.encoding op := by
  cases op with
  | isNull =>
    cases h
    exact .nothing (Or.inl rfl)
  | notNull =>
    cases h
    exact .nothing (Or.inr rfl)
  | oneOf => exact of_itemsComparand (Or.inl rfl) h
  | noneOf => exact of_itemsComparand (Or.inr rfl) h
  | like => exact of_partComparand h
  | eq | ne | gt | ge | lt | le => exact of_valueComparand (by decide) h

end Operand

/-! ## Two notations -/

/-- The words of an operator: in SQL they stand behind the column, in a document a keyword stands
    before the operand, or nothing does. -/
structure Operator.Words where
  sql : String
  keyword : Option String

/-- The words of each operator in the two notations. -/
def Operator.words : Operator → Words
  | eq => ⟨" = ", none⟩
  | ne => ⟨" != ", some "$ne"⟩
  | gt => ⟨" > ", some "$gt"⟩
  | ge => ⟨" >= ", some "$gte"⟩
  | lt => ⟨" < ", some "$lt"⟩
  | le => ⟨" <= ", some "$lte"⟩
  | oneOf => ⟨" IN ", some "$in"⟩
  | noneOf => ⟨" NOT IN ", some "$nin"⟩
  | like => ⟨" LIKE ", some "$regex"⟩
  | isNull => ⟨" IS NULL", none⟩
  | notNull => ⟨" IS NOT NULL", some "$ne"⟩

theorem Operator.sql_words (op : Operator) : op.words.sql = op.sql := by cases op <;> rfl

theorem Operator.keyword_words (op : Operator) : op.words.keyword = DocumentTest.keyword? op := by
  cases op <;> rfl

/-- The operand in a document. A text to be contained becomes an expression. -/
def Comparand.document : Comparand → Json
  | nothing => Json.null
  | value j => j
  | items js => .array js
  | part text => Json.text (literalPattern text)

/-- A column, the operator it is compared with and the operand. -/
structure Comparison extends ColumnTest where
  operand : Comparand

namespace Comparison

variable {value : FieldValue} {encoding : Encoding} {c : Comparison}

/-- The comparison in SQL. A compound value is bound as its JSON text, a text to be contained as a
    pattern. -/
def sql (c : Comparison) : Fragment :=
  let head := Fragment.ofText (c.column ++ c.operator.words.sql)
  match c.operand with
  | .nothing => head
  | .value j => head ++ Fragment.argument j.toScalar
  | .items js => head ++ Fragment.argumentList (js.map Json.toScalar)
  | .part text => head ++ Fragment.argument (.text (LikePattern.containing text))

/-- The comparison as a document: the column is the key, and a keyword is the key of the operand. -/
def document (c : Comparison) : Json :=
  match c.operator.words.keyword with
  | none => .field c.column c.operand.document
  | some keyword => .field c.column (.field keyword c.operand.document)

/-- The comparison as a test of documents. -/
def test (c : Comparison) : DocumentTest := ⟨c.column, c.operator, c.operand.document⟩

theorem toJson_test (c : Comparison) : c.test.toJson = c.document := by
  have hoperator : c.test.operator = c.operator := rfl
  unfold document DocumentTest.toJson
  rw [Operator.keyword_words, hoperator]
  cases DocumentTest.keyword? c.operator <;> rfl

theorem map_toJson_test (cs : List Comparison) :
    (cs.map test).map DocumentTest.toJson = cs.map document := by
  rw [List.map_map]
  exact List.map_congr_left fun c _ => c.toJson_test

/-- What stands without a keyword is a scalar. -/
theorem readable_test (h : c.operand.Of value encoding c.operator) : c.test.Readable := by
  intro hkeyword
  have hkeyword : DocumentTest.keyword? c.operator = none := hkeyword
  show ∃ v, c.operand.document = .scalar v
  generalize c.operand = operand at h
  generalize c.operator = op at h hkeyword
  cases h with
  | nothing hop => exact ⟨.null, rfl⟩
  | items hop hvalue hjs => rcases hop with rfl | rfl <;> cases hkeyword
  | part hvalue => exact ⟨_, rfl⟩
  | value hop hvalue hj => exact FieldValue.exists_scalar_of_toJson hvalue hj

end Comparison

namespace Operand

/-- The comparison of a column with the value, if it is not left out. -/
def comparison (x : Operand) (t : ColumnTest) : Except Error (Option Comparison) :=
  (x.comparand t.operator).map (Option.map (Comparison.mk t))

/-- A condition on one column is its comparison in SQL. -/
theorem compare_eq_comparison (x : Operand) (t : ColumnTest) :
    x.compare t.column t.operator = (x.comparison t).map (Option.map Comparison.sql) := by
  obtain ⟨field, encoding, value⟩ := x
  obtain ⟨column, op⟩ := t
  have hitems (x : Operand) (items : List FieldValue) :
      x.bindItems items = (x.itemOperands items).map (List.map Json.toScalar) := by
    unfold bindItems itemOperands
    rw [← mapM_map]
    exact mapM_congr fun item _ => item.bind_eq_operand x.field x.encoding
  cases op with
  | isNull | notNull => rfl
  | like =>
    unfold compare comparison comparand partComparand
    cases value with
    | scalar v => cases v <;> rfl
    | _ => rfl
  | oneOf | noneOf =>
    unfold compare comparison comparand itemsComparand
    dsimp only
    cases value with
    | list items =>
      cases items with
      | nil => rfl
      | cons item items =>
        simp only [hitems, reduceCtorEq, and_false, if_false]
        cases itemOperands ⟨field, encoding, .list (item :: items)⟩ (item :: items) <;> rfl
    | _ => rfl
  | eq | ne | gt | ge | lt | le =>
    unfold compare comparison comparand valueComparand bind
    dsimp only
    split
    · rfl
    · rw [FieldValue.bind_eq_operand]
      cases value.operand field encoding <;> rfl

/-- A test of documents is its comparison. -/
theorem test_eq_comparison (x : Operand) (t : ColumnTest) :
    x.test t.column t.operator = (x.comparison t).map (Option.map Comparison.test) := by
  obtain ⟨field, encoding, value⟩ := x
  obtain ⟨column, op⟩ := t
  cases op with
  | isNull | notNull => rfl
  | like =>
    unfold test comparison comparand partComparand
    cases value with
    | scalar v => cases v <;> rfl
    | _ => rfl
  | oneOf | noneOf =>
    unfold test comparison comparand itemsComparand
    dsimp only
    cases value with
    | list items =>
      cases items with
      | nil => rfl
      | cons item items =>
        simp only [FieldValue.operand_list, List.isEmpty_cons, reduceCtorEq, and_false, if_false,
          Bool.false_eq_true]
        unfold itemOperands
        dsimp only
        cases (item :: items).mapM fun item : FieldValue => item.operand field encoding <;> rfl
    | _ => rfl
  | eq | ne | gt | ge | lt | le =>
    unfold test comparison comparand valueComparand
    dsimp only
    split
    · rfl
    · cases value.operand field encoding <;> rfl

end Operand

/-! ## Clauses -/

/-- What a field asks for: one comparison, or several as alternatives. -/
inductive Clause
  | one (c : Comparison)
  | anyOf (cs : List Comparison)

namespace Clause

/-- The clause in SQL. An alternative without others stands by itself. -/
def sql : Clause → Fragment
  | one c => c.sql
  | anyOf [c] => c.sql
  | anyOf cs => (Fragment.joinWith " OR " (cs.map Comparison.sql)).parenthesized

/-- The clause as a document. Alternatives stand behind a keyword, also where there is just one. -/
def document : Clause → Json
  | one c => c.document
  | anyOf cs => .field "$or" (.array (cs.map Comparison.document))

/-- The clause of a filter. -/
def filterClause : Clause → FilterClause
  | one c => .one c.test
  | anyOf cs => .anyOf (cs.map Comparison.test)

theorem toJson_filterClause (c : Clause) : c.filterClause.toJson = c.document := by
  cases c with
  | one c => exact c.toJson_test
  | anyOf cs =>
    show Json.field "$or" (.array ((cs.map Comparison.test).map DocumentTest.toJson)) = _
    rw [Comparison.map_toJson_test]
    rfl

/-- A clause of a plan for a value: the columns and operators are those of the plan, in order, less
    what is left out, and every operand comes from the value. -/
inductive Of (plan : FieldPlan FilterForm) (value : FieldValue) : Clause → Prop
  | one {op : Operator} {o : Comparand} (hkind : plan.kind = .simple op)
      (ho : o.Of value plan.encoding op) : Of plan value (.one ⟨⟨plan.column, op⟩, o⟩)
  | anyOf {tests : List ColumnTest} {cs : List Comparison} (hkind : plan.kind = .anyOf tests)
      (hne : cs ≠ []) (htests : (cs.map Comparison.toColumnTest).Sublist tests)
      (ho : ∀ c ∈ cs, c.operand.Of value plan.encoding c.operator) : Of plan value (.anyOf cs)

end Clause

/-- The document of a clause that a plan gives is read back. -/
theorem Clause.Of.readable {plan : FieldPlan FilterForm} {value : FieldValue} {c : Clause}
    (h : c.Of plan value) : c.filterClause.Readable := by
  intro t ht
  cases h with
  | one hkind ho =>
    rw [List.mem_singleton.1 ht]
    exact Comparison.readable_test ho
  | anyOf hkind hne htests ho =>
    obtain ⟨c, hc, rfl⟩ := List.mem_map.1 ht
    exact Comparison.readable_test (ho c hc)

/-- A form that compares columns with the value and does nothing else. -/
def FilterForm.Compares : FilterForm → Prop
  | .simple _ | .anyOf _ => True
  | _ => False

/-- Conditions as alternatives: none at all, one by itself, or several in parentheses. -/
def Fragment.alternatives : List Fragment → Option Fragment
  | [] => none
  | [f] => some f
  | fs => some (Fragment.joinWith " OR " fs).parenthesized

theorem Condition.anyOf_eq_collect (x : Operand) (tests : List ColumnTest) :
    Condition.anyOf x tests =
      (collect (fun t : ColumnTest => x.compare t.column t.operator) tests).map
        Fragment.alternatives := by
  unfold Condition.anyOf collect
  cases tests.mapM fun t : ColumnTest => x.compare t.column t.operator with
  | error e => rfl
  | ok found =>
    simp only [Except.map, bind, Except.bind]
    generalize found.filterMap id = fs
    match fs with
    | [] => rfl
    | [f] => rfl
    | f :: g :: fs => rfl

namespace Clause

/-- The clause of alternatives, if there are any. -/
def ofAlternatives : List Comparison → Option Clause
  | [] => none
  | cs => some (.anyOf cs)

theorem map_sql_ofAlternatives (cs : List Comparison) :
    (ofAlternatives cs).map sql = Fragment.alternatives (cs.map Comparison.sql) := by
  match cs with
  | [] => rfl
  | [c] => rfl
  | c :: d :: cs => rfl

theorem map_filterClause_ofAlternatives (cs : List Comparison) :
    (ofAlternatives cs).map filterClause =
      if (cs.map Comparison.test).isEmpty then none
      else some (.anyOf (cs.map Comparison.test)) := by
  cases cs <;> rfl

end Clause

namespace FieldPlan

variable {plan : FieldPlan FilterForm} {value : FieldValue}

/-- The clause of a field for a value, if it is not left out. Forms that do more than compare have
    none. -/
def clause (plan : FieldPlan FilterForm) (value : FieldValue) : Except Error (Option Clause) :=
  let x : Operand := ⟨plan.name, plan.encoding, value⟩
  if value.isIdle then .ok none
  else
    match plan.kind with
    | .simple op => (x.comparison ⟨plan.column, op⟩).map (Option.map .one)
    | .anyOf tests => (collect x.comparison tests).map Clause.ofAlternatives
    | _ => .ok none

theorem condition_eq_clause (h : plan.kind.Compares) (s : Settings) :
    plan.condition s value = (plan.clause value).map (Option.map Clause.sql) := by
  obtain ⟨name, column, kind, encoding⟩ := plan
  let x : Operand := ⟨name, encoding, value⟩
  unfold condition clause
  dsimp only
  split
  · rfl
  cases kind with
  | simple op =>
    change x.compare column op = ((x.comparison ⟨column, op⟩).map _).map _
    rw [x.compare_eq_comparison ⟨column, op⟩]
    cases x.comparison ⟨column, op⟩ with
    | error e => rfl
    | ok found => cases found <;> rfl
  | anyOf tests =>
    have hfound := collect_map x.comparison Comparison.sql tests
    simp only [← Operand.compare_eq_comparison] at hfound
    change Condition.anyOf x tests = ((collect x.comparison tests).map _).map _
    rw [Condition.anyOf_eq_collect, hfound]
    cases collect x.comparison tests with
    | error e => rfl
    | ok cs => exact congrArg Except.ok (Clause.map_sql_ofAlternatives cs).symm
  | custom | subQuery | nested | domainPath => exact h.elim

theorem filterClause_eq_clause (h : plan.kind.Compares) :
    plan.filterClause value = (plan.clause value).map (Option.map Clause.filterClause) := by
  obtain ⟨name, column, kind, encoding⟩ := plan
  let x : Operand := ⟨name, encoding, value⟩
  unfold filterClause clause
  dsimp only
  split
  · rfl
  cases kind with
  | simple op =>
    change (x.test column op).map _ = ((x.comparison ⟨column, op⟩).map _).map _
    rw [x.test_eq_comparison ⟨column, op⟩]
    cases x.comparison ⟨column, op⟩ with
    | error e => rfl
    | ok found => cases found <;> rfl
  | anyOf tests =>
    have hfound := collect_map x.comparison Comparison.test tests
    simp only [← Operand.test_eq_comparison] at hfound
    have htests := mapM_bind_pure (fun t : ColumnTest => x.test t.column t.operator)
      (fun found => if found.isEmpty then none else some (FilterClause.anyOf found)) tests
    rw [hfound] at htests
    change _ = ((collect x.comparison tests).map _).map _
    refine htests.trans ?_
    cases collect x.comparison tests with
    | error e => rfl
    | ok cs => exact congrArg Except.ok (Clause.map_filterClause_ofAlternatives cs).symm
  | custom | subQuery | nested | domainPath => exact h.elim

theorem of_clause {c : Clause} (h : plan.clause value = .ok (some c)) : c.Of plan value := by
  have hcomparison {t : ColumnTest} {found : Comparison}
      (hfound : Operand.comparison ⟨plan.name, plan.encoding, value⟩ t = .ok (some found)) :
      found.toColumnTest = t ∧ found.operand.Of value plan.encoding t.operator := by
    obtain ⟨o, ho, hsome⟩ := map_eq_ok.1 hfound
    obtain ⟨o, rfl, rfl⟩ := Option.map_eq_some_iff.1 hsome
    exact ⟨rfl, Operand.of_comparand ho⟩
  unfold clause at h
  dsimp only at h
  split at h
  · cases h
  split at h
  next op hkind =>
    obtain ⟨found, hfound, hsome⟩ := map_eq_ok.1 h
    obtain ⟨⟨t, o⟩, rfl, rfl⟩ := Option.map_eq_some_iff.1 hsome
    obtain ⟨rfl, ho⟩ := hcomparison hfound
    exact .one hkind ho
  next tests hkind =>
    obtain ⟨cs, hcs, hsome⟩ := map_eq_ok.1 h
    unfold Clause.ofAlternatives at hsome
    split at hsome
    · cases hsome
    next hne =>
      cases hsome
      refine .anyOf hkind (fun hnil => hne hnil) ?_ ?_
      · exact sublist_of_collect (fun t c hc => (hcomparison hc).1) hcs
      · intro c hc
        obtain ⟨t, -, ht⟩ := exists_of_mem_collect hcs hc
        obtain ⟨rfl, ho⟩ := hcomparison ht
        exact ho
  · cases h

end FieldPlan

/-! ## Conditions and filters -/

namespace CriteriaSchema

variable {schema : CriteriaSchema}

/-- The clauses of a record, each with the plan that it comes from. -/
def clauses (schema : CriteriaSchema) (record : Record) :
    Except Error (List (FieldPlan FilterForm × Clause)) :=
  collect (fun plan => (plan.clause (record.get plan.name)).map (Option.map (Prod.mk plan)))
    schema.fields

/-- The conditions are those of the fields, less those that are left out. -/
theorem conditions_eq_collect (schema : CriteriaSchema) (s : Settings) (record : Record) :
    schema.conditions s record none =
      collect (fun plan => plan.condition s (record.get plan.name)) schema.fields := by
  have hplans : (schema.fields.filter fun plan =>
      !(none : Option Template).any (·.references plan.name)) = schema.fields := by simp
  unfold conditions
  rw [hplans]
  exact (mapM_bind_pure _ id schema.fields).trans (congrFun Except.map_id _)

theorem conditions_eq_clauses (h : ∀ plan ∈ schema.fields, plan.kind.Compares) (s : Settings)
    (record : Record) :
    schema.conditions s record none =
      (schema.clauses record).map (List.map fun c => c.2.sql) := by
  unfold clauses
  rw [conditions_eq_collect, collect_paired]
  exact collect_congr fun plan hp => FieldPlan.condition_eq_clause (h plan hp) s

/-- A filter is the clauses of the fields, less those that are left out. -/
theorem filter_eq_collect (schema : CriteriaSchema) (record : Record) :
    schema.filter record =
      (collect (fun plan => plan.filterClause (record.get plan.name)) schema.fields).map
        DocumentFilter.mk :=
  mapM_bind_pure _ DocumentFilter.mk schema.fields

theorem filter_eq_clauses (h : ∀ plan ∈ schema.fields, plan.kind.Compares) (record : Record) :
    schema.filter record =
      (schema.clauses record).map fun cs => ⟨cs.map fun c => c.2.filterClause⟩ := by
  have hpaired := collect_paired (fun plan => plan.clause (record.get plan.name))
    Clause.filterClause schema.fields
  rw [filter_eq_collect,
    collect_congr fun plan hp => FieldPlan.filterClause_eq_clause (h plan hp), ← hpaired]
  unfold clauses
  cases collect (fun plan => (plan.clause (record.get plan.name)).map (Option.map (Prod.mk plan)))
    schema.fields <;> rfl

/-- Clauses of a record come from the plans of the schema, in their order, and from the values of
    the record. -/
theorem of_clauses {record : Record} {found : List (FieldPlan FilterForm × Clause)}
    (h : schema.clauses record = .ok found) :
    (found.map Prod.fst).Sublist schema.fields ∧
      ∀ c ∈ found, c.2.Of c.1 (record.get c.1.name) := by
  have hclause {plan : FieldPlan FilterForm} {c : FieldPlan FilterForm × Clause}
      (hc : (plan.clause (record.get plan.name)).map (Option.map (Prod.mk plan)) = .ok (some c)) :
      c.1 = plan ∧ c.2.Of c.1 (record.get c.1.name) := by
    obtain ⟨found, hfound, hsome⟩ := map_eq_ok.1 hc
    obtain ⟨d, rfl, rfl⟩ := Option.map_eq_some_iff.1 hsome
    exact ⟨rfl, FieldPlan.of_clause hfound⟩
  refine ⟨sublist_of_collect (fun plan c hc => (hclause hc).1) h, fun c hc => ?_⟩
  obtain ⟨plan, -, hplan⟩ := exists_of_mem_collect h hc
  exact (hclause hplan).2

/-- Where all fields are comparisons, the conditions of a record and its filter are the same
    clauses in two notations, or they fail with the same error. The document of the filter has one
    clause for each condition, in the order of the plans that they come from. Columns, operators
    and operands of a clause are those of its condition, and the operands come from the values of
    the record. -/
theorem conditions_filter_alike (h : ∀ plan ∈ schema.fields, plan.kind.Compares) (s : Settings)
    (record : Record) :
    (∃ e, schema.conditions s record none = .error e ∧ schema.filter record = .error e) ∨
    ∃ (found : List (FieldPlan FilterForm × Clause)) (filter : DocumentFilter),
      schema.conditions s record none = .ok (found.map fun c => c.2.sql) ∧
      schema.filter record = .ok filter ∧
      filter.toJson.clauses = (found.map fun c => c.2.document) ∧
      (found.map Prod.fst).Sublist schema.fields ∧
      ∀ c ∈ found, c.2.Of c.1 (record.get c.1.name) := by
  rw [conditions_eq_clauses h, filter_eq_clauses h]
  cases hfound : schema.clauses record with
  | error e => exact Or.inl ⟨e, rfl, rfl⟩
  | ok found =>
    obtain ⟨hplans, hof⟩ := of_clauses hfound
    refine Or.inr ⟨found, _, rfl, rfl, ?_, hplans, hof⟩
    rw [DocumentFilter.clauses_toJson_map fun c hc => (hof c hc).readable]
    exact List.map_congr_left fun c _ => c.2.toJson_filterClause

/-- Users by a part of their name, and outside some ids or in some roles. -/
def ofUsers : CriteriaSchema :=
  ⟨"UserQuery", ⟨"user", [.literal ['u', 's', 'e', 'r']]⟩, none, none,
    [⟨"nameLike", "name", .simple .like, .ordinal⟩,
      ⟨"idNotInOrRoleIn", "role", .anyOf [⟨"id", .noneOf⟩, ⟨"role", .oneOf⟩], .ordinal⟩]⟩

/-- Users with a given part of their name, and no ids or roles at all. -/
def partOfName (part : String) : Record :=
  ⟨"UserQuery", [("nameLike", .scalar (.text part)), ("idNotInOrRoleIn", .list [])]⟩

set_option maxRecDepth 20000 in
/-- Every user is outside no ids at all, so this alternative is left out in both notations. -/
theorem conditions_filter_ofUsers :
    (∀ plan ∈ ofUsers.fields, plan.kind.Compares) ∧
    ∃ (found : List (FieldPlan FilterForm × Clause)) (filter : DocumentFilter),
      found.map (fun c => c.2.sql) = [⟨"name LIKE ?", [.text "%a+%"]⟩, ⟨"role IN (null)", []⟩] ∧
      ofUsers.filter (partOfName "a+") = .ok filter ∧
      filter.toJson = .field "$and" (.array
        [.field "name" (.field "$regex" (Json.text "a\\+")),
          .field "$or" (.array [.field "role" (.field "$in" (.array []))])]) ∧
      filter.toJson.clauses = (found.map fun c => c.2.document) ∧
      (found.map Prod.fst).Sublist ofUsers.fields ∧
      ∀ c ∈ found, c.2.Of c.1 ((partOfName "a+").get c.1.name) := by
  have hcompares : ∀ plan ∈ ofUsers.fields, plan.kind.Compares := by
    simp [ofUsers, FilterForm.Compares]
  have hconditions : ofUsers.conditions .default (partOfName "a+") none =
      .ok [⟨"name LIKE ?", [.text "%a+%"]⟩, ⟨"role IN (null)", []⟩] := by cbv
  have hdocument : (ofUsers.filter (partOfName "a+")).map DocumentFilter.toJson =
      .ok (.field "$and" (.array
        [.field "name" (.field "$regex" (Json.text "a\\+")),
          .field "$or" (.array [.field "role" (.field "$in" (.array []))])])) := by cbv
  refine ⟨hcompares, ?_⟩
  rcases conditions_filter_alike hcompares .default (partOfName "a+") with
    ⟨e, herror, -⟩ | ⟨found, filter, hfound, hfilter, hclauses, hplans, hof⟩
  · rw [hconditions] at herror
    cases herror
  · rw [hconditions, Except.ok.injEq] at hfound
    rw [hfilter] at hdocument
    exact ⟨found, filter, hfound.symm, hfilter, Except.ok.inj hdocument, hclauses, hplans, hof⟩

end CriteriaSchema

end CriteriaSql
