/-
  Identifiers under UPDATE. A type may mark several fields as ids, but the first one alone is the id
  of the entity: an UPDATE finds rows by the column of this field and assigns the other columns,
  those of the other marked fields among them. So it leaves all marked columns as they are and finds
  rows by all of them exactly where the marked fields have one column between them and no field that
  is assigned has it (`keepsIds_iff`).
-/
import CriteriaSql.Proofs.Write.Update
import Mathlib

namespace CriteriaSql

variable {s : Settings} {f : Statement} {schema : EntitySchema} {record : Record}
  {presentOnly mapCamelCase : Bool} {type : RecordType} {names : List String} {first : String}

/-! ## Marked fields -/

namespace RecordType

/-- The fields that are marked as ids, in order. -/
def idFields (type : RecordType) : List String :=
  (type.fields.getD []).filter (type.marks.has · .id)

/-- The columns of the fields that are marked as ids. -/
def idColumns (type : RecordType) (s : Settings) : List String :=
  type.idFields.map (Naming.column s.mapCamelCase)

end RecordType

namespace EntitySchema

/-- The id of a type with marked fields is the first of them. -/
theorem Built.name_of_id (h : schema.Built type mapCamelCase names)
    (hfirst : type.idFields.head? = some first) {id : IdPlan} (hid : schema.id = some id) :
    id.name = first ∧ id.column = Naming.column mapCamelCase first := by
  have hresolve := h.id
  rw [RecordType.idFields, h.fields, Option.getD_some] at hfirst
  rw [hid] at hresolve
  have hcolumn := (resolveId_spec hresolve).2
  unfold resolveId at hresolve
  dsimp only at hresolve
  rw [hfirst, Option.some_or] at hresolve
  split at hresolve
  · cases hresolve
  · cases hresolve
    exact ⟨rfl, hcolumn⟩

/-- A column other than the id is that of another declared field. -/
theorem Built.field_of_dataColumn (h : schema.Built type mapCamelCase names)
    {plan : FieldPlan EntityRole} (hplan : plan ∈ schema.dataColumns) :
    plan.name ∈ names ∧ plan.column = Naming.column mapCamelCase plan.name ∧
      ∀ id, schema.id = some id → plan.name ≠ id.name := by
  obtain ⟨hcolumn, hother⟩ := List.mem_filter.1 hplan
  have hfield := mem_fields_of_mem_columns hcolumn
  obtain ⟨field, hdeclared, hof⟩ := h.exists_field hfield
  obtain ⟨hname, -⟩ := plan_spec hof
  refine ⟨hname ▸ hdeclared, (h.plan_of_mem hfield).1, fun id hid hsame => ?_⟩
  rw [isId, hid, Option.any_some, hsame, beq_self_eq_true] at hother
  cases hother

end EntitySchema

/-! ## What an UPDATE does to them -/

namespace UpdateParts

variable {parts : UpdateParts}

/-- None of the columns is assigned, and rows are found by each of them. -/
structure Keeps (parts : UpdateParts) (columns : List String) : Prop where
  not_set : ∀ column ∈ columns, column ∉ parts.sets.map (·.column)
  found_by : ∀ column ∈ columns, column ∈ parts.keys.map (·.column)

/-- With one column to find rows by, an UPDATE keeps columns exactly where all of them are this one
    and it is not assigned. -/
theorem keeps_iff {columns : List String} {key : String}
    (hkeys : parts.keys.map (·.column) = [key]) (hsome : columns ≠ []) :
    parts.Keeps columns ↔
      (∀ column ∈ columns, column = key) ∧ key ∉ parts.sets.map (·.column) := by
  constructor
  · rintro ⟨hnot, hfound⟩
    have hall : ∀ column ∈ columns, column = key := by
      intro column hm
      have hkey := hfound column hm
      rw [hkeys] at hkey
      exact List.mem_singleton.1 hkey
    obtain ⟨column, hm⟩ := List.exists_mem_of_ne_nil _ hsome
    exact ⟨hall, hall column hm ▸ hnot column hm⟩
  · rintro ⟨hall, hnot⟩
    refine ⟨fun column hm => hall column hm ▸ hnot, fun column hm => ?_⟩
    rw [hkeys, hall column hm]
    exact List.mem_singleton.2 rfl

/-- An UPDATE of an entity with marked fields finds rows by the column of the first one. -/
theorem Of.keys_of_first (h : parts.Of schema record presentOnly)
    (hb : schema.Built type mapCamelCase names) (hfirst : type.idFields.head? = some first) :
    parts.keys.map (·.column) = [Naming.column mapCamelCase first] := by
  obtain ⟨id, arg, hid, -, -, hkeys⟩ := h.keys_eq
  rw [hkeys, List.map_singleton, (hb.name_of_id hfirst hid).2]

/-- What it assigns are columns of other fields. -/
theorem Of.field_of_set (h : parts.Of schema record presentOnly)
    (hb : schema.Built type mapCamelCase names) (hfirst : type.idFields.head? = some first)
    {b : BoundColumn} (hset : b ∈ parts.sets) :
    b.field ∈ names ∧ b.column = Naming.column mapCamelCase b.field ∧ b.field ≠ first := by
  obtain ⟨id, arg, hid, -⟩ := h.keys_eq
  obtain ⟨plan, hplan, hof⟩ := exists_of_mem_mapM h.sets_eq hset
  obtain ⟨hname, hcolumn, -⟩ := Record.bindColumn_spec hof
  obtain ⟨hdeclared, hown, hother⟩ := hb.field_of_dataColumn (List.mem_filter.1 hplan).1
  rw [hname, hcolumn, ← (hb.name_of_id hfirst hid).1]
  exact ⟨hdeclared, hown, hother id hid⟩

end UpdateParts

namespace Entity

variable {e : Entity}

/-- An UPDATE of all columns or of those that have a value finds rows by the column of the first
    field that is marked as an id, and assigns columns of other fields. It keeps the columns of all
    marked fields if and only if all of these are the column of the first one and this is not
    assigned. Where no other field has the column of the first one, it keeps them if and only if no
    other field is marked. -/
theorem keepsIds_iff (hfirst : e.type.idFields.head? = some first)
    (hf : e.updateById s presentOnly = .ok f) :
    ∃ schema record parts, e.type.asEntity s = .ok schema ∧ e.record = .ok record ∧
      UpdateParts.Of parts schema record presentOnly ∧ parts.sql = f ∧
      parts.keys.map (·.column) = [Naming.column s.mapCamelCase first] ∧
      (∀ b ∈ parts.sets, b.field ≠ first ∧ b.column = Naming.column s.mapCamelCase b.field) ∧
      (parts.Keeps (e.type.idColumns s) ↔
        (∀ column ∈ e.type.idColumns s, column = Naming.column s.mapCamelCase first) ∧
          Naming.column s.mapCamelCase first ∉ parts.sets.map (·.column)) ∧
      ((∀ field ∈ e.type.fields.getD [],
          Naming.column s.mapCamelCase field = Naming.column s.mapCamelCase first →
            field = first) →
        (parts.Keeps (e.type.idColumns s) ↔ ∀ field ∈ e.type.idFields, field = first)) := by
  obtain ⟨schema, record, parts, hschema, hrecord, hparts, rfl⟩ := updateById_eq_sql.1 hf
  obtain ⟨names, hb⟩ := RecordType.entitySchema_built hschema
  have hkeys := hparts.keys_of_first hb hfirst
  have hsome : e.type.idColumns s ≠ [] := by
    rw [RecordType.idColumns, Ne, List.map_eq_nil_iff]
    exact List.ne_nil_of_mem (List.mem_of_head? hfirst)
  have hiff := UpdateParts.keeps_iff hkeys hsome
  refine ⟨schema, record, parts, hschema, hrecord, hparts, rfl, hkeys, ?_, hiff, ?_⟩
  · intro b hset
    obtain ⟨-, hcolumn, hother⟩ := hparts.field_of_set hb hfirst hset
    exact ⟨hother, hcolumn⟩
  · intro hown
    rw [hiff, RecordType.idColumns, List.forall_mem_map]
    rw [hb.fields, Option.getD_some] at hown
    constructor
    · rintro ⟨hall, -⟩ field hm
      have hdeclared := (List.mem_filter.1 hm).1
      rw [hb.fields, Option.getD_some] at hdeclared
      exact hown field hdeclared (hall field hm)
    · intro hall
      refine ⟨fun field hm => congrArg _ (hall field hm), fun hset => ?_⟩
      -- a field that shares the column of the first one is the first one, which is not assigned
      obtain ⟨b, hm, hcolumn⟩ := List.mem_map.1 hset
      obtain ⟨hdeclared, hof, hother⟩ := hparts.field_of_set hb hfirst hm
      exact hother (hown b.field hdeclared (hof.symm.trans hcolumn))

set_option maxRecDepth 20000 in
theorem keepsIds_ofNote :
    ∃ parts : UpdateParts,
      parts.sql = ⟨"UPDATE t_note SET title = ? WHERE id = ?", [.text "a", .int 7]⟩ ∧
        parts.Keeps (note.idColumns .default) := by
  have hpatch : ofNote.updateById .default true =
      .ok ⟨"UPDATE t_note SET title = ? WHERE id = ?", [.text "a", .int 7]⟩ := by cbv
  have hfirst : note.idFields.head? = some "id" := by decide
  obtain ⟨schema, record, parts, -, -, -, hsql, -, -, -, hown⟩ := keepsIds_iff hfirst hpatch
  exact ⟨parts, hsql, (hown fun field _ hsame => hsame).2 (by decide)⟩

/-- Grants of roles to users, told apart by the user and the role. -/
def grant : RecordType :=
  ⟨"GrantEntity", some ["userId", "roleId", "level"], "t_grant", none, none,
    [("userId", .id), ("roleId", .id)]⟩

/-- The grant of the role 2 to the user 1. -/
def ofGrant : Entity :=
  ⟨grant, .record [("userId", .int ⟨true, .w64⟩ 1), ("roleId", .int ⟨true, .w64⟩ 2),
    ("level", .text "x")]⟩

set_option maxRecDepth 20000 in
/-- All grants of the user become grants of the one role. -/
theorem update_rewrites_second_id :
    ofGrant.update .default =
        .ok ⟨"UPDATE t_grant SET roleId = ?, level = ? WHERE userId = ?",
          [.int 2, .text "x", .int 1]⟩ ∧
      ofGrant.patchById .default =
        .ok ⟨"UPDATE t_grant SET roleId = ?, level = ? WHERE userId = ?",
          [.int 2, .text "x", .int 1]⟩ ∧
      grant.idColumns .default = ["userId", "roleId"] := by
  refine ⟨by cbv, by cbv, by decide⟩

end Entity

end CriteriaSql
