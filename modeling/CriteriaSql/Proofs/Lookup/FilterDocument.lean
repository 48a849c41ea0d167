/-
  Filters read back from their documents. A document has the clauses of a filter behind `$and`, is
  its one clause, or is empty. A clause has its tests behind `$or`, or is its one test, and the key
  of a test is the column. A test could be taken for one of the two keywords only if it compared its
  column with an array; where the tests without a keyword compare with scalars, a filter has the
  clauses that are read in its document (`DocumentFilter.clauses_toJson`), and a clause the columns
  (`FilterClause.columns_toJson`).
-/
import CriteriaSql.Lookup.Filter

namespace CriteriaSql

/-! ## Reading -/

namespace Json

/-- The items behind a keyword, in a document that says nothing else. -/
def itemsOf? (keyword : String) : Json → Option (List Json)
  | .object [(key, .array items)] => if key = keyword then some items else none
  | _ => none

/-- The clauses of a filter's document. -/
def clauses : Json → List Json
  | .object [] => []
  | filter => (filter.itemsOf? "$and").getD [filter]

/-- The key of an object that has one field. -/
def key? : Json → Option String
  | .object [(key, _)] => some key
  | _ => none

/-- The columns that a clause's document tests. -/
def columns (clause : Json) : List String :=
  ((clause.itemsOf? "$or").getD [clause]).filterMap key?

theorem itemsOf?_field (keyword : String) (items : List Json) :
    itemsOf? keyword (.field keyword (.array items)) = some items := if_pos rfl

theorem itemsOf?_field_of_ne {key keyword : String} (h : key ≠ keyword) (value : Json) :
    itemsOf? keyword (.field key value) = none := by
  cases value with
  | array items => exact if_neg h
  | scalar v => rfl
  | object fields => rfl

theorem clauses_field (key : String) (value : Json) :
    clauses (.field key value) =
      ((Json.field key value).itemsOf? "$and").getD [.field key value] := rfl

end Json

/-! ## Tests -/

namespace DocumentTest

variable {t : DocumentTest}

/-- A test without a keyword compares with a scalar. -/
def Readable (t : DocumentTest) : Prop := keyword? t.operator = none → ∃ v, t.operand = .scalar v

/-- A test is the field of its column. -/
theorem exists_toJson_eq (t : DocumentTest) : ∃ operand, t.toJson = .field t.column operand := by
  unfold toJson
  split
  next keyword _ => exact ⟨.field keyword t.operand, rfl⟩
  next => exact ⟨t.operand, rfl⟩

theorem key?_toJson (t : DocumentTest) : t.toJson.key? = some t.column := by
  obtain ⟨operand, h⟩ := t.exists_toJson_eq
  rw [h]
  rfl

/-- A test is taken for no keyword. -/
theorem itemsOf?_toJson (h : t.Readable) (keyword : String) : t.toJson.itemsOf? keyword = none := by
  unfold toJson
  split
  next => rfl
  next hnone =>
    obtain ⟨v, hv⟩ := h hnone
    rw [hv]
    rfl

end DocumentTest

/-! ## Clauses -/

namespace FilterClause

variable {clause : FilterClause}

/-- The tests that a clause is made of. -/
def tests : FilterClause → List DocumentTest
  | one test => [test]
  | anyOf tests => tests

/-- The tests of the clause are read back. -/
def Readable (clause : FilterClause) : Prop := ∀ t ∈ clause.tests, t.Readable

theorem exists_toJson_eq (clause : FilterClause) :
    ∃ key value, clause.toJson = .field key value := by
  cases clause with
  | one t =>
    obtain ⟨operand, h⟩ := t.exists_toJson_eq
    exact ⟨t.column, operand, h⟩
  | anyOf tests => exact ⟨"$or", _, rfl⟩

/-- A clause by itself is the filter of this clause. -/
theorem itemsOf?_toJson (h : clause.Readable) : clause.toJson.itemsOf? "$and" = none := by
  cases clause with
  | one t => exact DocumentTest.itemsOf?_toJson (h t List.mem_cons_self) "$and"
  | anyOf tests => exact Json.itemsOf?_field_of_ne (by decide) _

theorem columns_toJson (h : clause.Readable) :
    clause.toJson.columns = clause.tests.map (·.column) := by
  cases clause with
  | one t =>
    have hitems := DocumentTest.itemsOf?_toJson (h t List.mem_cons_self) "$or"
    show ((t.toJson.itemsOf? "$or").getD [t.toJson]).filterMap Json.key? = [t.column]
    rw [hitems, Option.getD_none, List.filterMap_cons_some t.key?_toJson]
    rfl
  | anyOf tests =>
    show (((Json.field "$or" _).itemsOf? "$or").getD _).filterMap Json.key? = _
    rw [Json.itemsOf?_field, Option.getD_some, List.filterMap_map]
    show tests.filterMap (fun t => t.toJson.key?) = tests.map (·.column)
    simp only [DocumentTest.key?_toJson, List.filterMap_eq_map']

end FilterClause

/-! ## Filters -/

namespace DocumentFilter

variable {filter : DocumentFilter}

/-- The clauses of the filter are read back. -/
def Readable (filter : DocumentFilter) : Prop := ∀ clause ∈ filter.clauses, clause.Readable

theorem clauses_toJson (h : filter.Readable) :
    filter.toJson.clauses = filter.clauses.map FilterClause.toJson := by
  obtain ⟨clauses⟩ := filter
  match clauses with
  | [] => rfl
  | [clause] =>
    have hitems := FilterClause.itemsOf?_toJson (h clause List.mem_cons_self)
    obtain ⟨key, value, hfield⟩ := clause.exists_toJson_eq
    show clause.toJson.clauses = [clause.toJson]
    rw [hfield] at hitems ⊢
    rw [Json.clauses_field, hitems, Option.getD_none]
  | first :: second :: rest =>
    show (Json.field "$and" _).clauses = _
    rw [Json.clauses_field, Json.itemsOf?_field, Option.getD_some]

/-- The clauses that are read in a filter of readable ones are their documents. -/
theorem clauses_toJson_map {α : Type} {found : List α} {clause : α → FilterClause}
    (h : ∀ c ∈ found, (clause c).Readable) :
    (DocumentFilter.mk (found.map clause)).toJson.clauses =
      found.map fun c => (clause c).toJson := by
  have hreadable : DocumentFilter.Readable ⟨found.map clause⟩ := List.forall_mem_map.2 h
  rw [clauses_toJson hreadable, List.map_map]
  rfl

/-- The document is empty where the filter has no clause. -/
theorem toJson_eq_empty_iff : filter.toJson = .object [] ↔ filter.clauses = [] := by
  obtain ⟨clauses⟩ := filter
  match clauses with
  | [] => exact iff_of_true rfl rfl
  | [clause] =>
    obtain ⟨key, value, hfield⟩ := clause.exists_toJson_eq
    refine iff_of_false (fun hempty => ?_) (List.cons_ne_nil _ _)
    have hnone : clause.toJson = .object [] := hempty
    rw [hfield] at hnone
    cases hnone
  | first :: second :: rest => exact iff_of_false nofun (List.cons_ne_nil _ _)

end DocumentFilter

/-! ## Documents of fields -/

/-- The test of a column as a document. -/
def Operand.document (x : Operand) (column : String) (op : Operator) : Except Error (Option Json) :=
  (x.test column op).map (Option.map DocumentTest.toJson)

/-- What a field contributes to the document of a filter. -/
def FieldPlan.document (plan : FieldPlan FilterForm) (value : FieldValue) :
    Except Error (Option Json) :=
  (plan.filterClause value).map (Option.map FilterClause.toJson)

end CriteriaSql
