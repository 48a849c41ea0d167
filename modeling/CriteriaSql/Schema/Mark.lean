/-
  Marks: what a declaration says of a field beyond its name.
-/
import CriteriaSql.Schema.Relation

namespace CriteriaSql

/-- What is said of a field. -/
inductive Mark
  | ignore
  | enumAsString
  | subQuery (select source : String)
  | queryField (template : String)
  | nested (queries : NestedQueries)
  | domainPath (path : DomainPath)
  | id
  | generated
  | relation (relation : Relation)
  deriving DecidableEq, Repr

/-- The marks of a type, in the order of their registration. -/
abbrev Marks := List (String × Mark)

namespace Marks

/-- The marks of one field. -/
def ofField (marks : Marks) (field : String) : List Mark :=
  (marks.filter (·.1 == field)).map (·.2)

/-- Whether a field has a mark. -/
def has (marks : Marks) (field : String) (mark : Mark) : Bool :=
  (marks.ofField field).any (· == mark)

/-- The marked fields, as often as they are marked. -/
def fields (marks : Marks) : List String := marks.map (·.1)

/-- What stands for a variant in a field: its number, unless its name is asked for. -/
def encoding (marks : Marks) (field : String) : Encoding :=
  if marks.has field .enumAsString then .name else .ordinal

theorem encoding_eq_name_iff {marks : Marks} {field : String} :
    marks.encoding field = .name ↔ marks.has field .enumAsString = true := by
  simp [encoding]

theorem has_iff {marks : Marks} {field : String} {mark : Mark} :
    marks.has field mark = true ↔ (field, mark) ∈ marks := by
  simp only [has, ofField, List.any_map, List.any_filter, List.any_eq_true, Function.comp,
    Bool.and_eq_true, beq_iff_eq]
  constructor
  · rintro ⟨⟨f, a⟩, hm, rfl, rfl⟩
    exact hm
  · intro hm
    exact ⟨_, hm, rfl, rfl⟩

end Marks

end CriteriaSql
