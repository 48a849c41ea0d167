/-
  The id that is written and the id that is looked up. An INSERT binds the id like every other
  column, in the encoding declared for its field; an UPDATE finds the row by the id as a number. The
  two arguments are the same exactly where no variant that goes by its name stands in the id
  (`id_looked_up_iff`).
-/
import CriteriaSql.Proofs.Restriction
import CriteriaSql.Proofs.Variants
import CriteriaSql.Proofs.Write.Insertion
import CriteriaSql.Proofs.Write.Update
import Mathlib

namespace CriteriaSql.Entity

variable {s : Settings} {e : Entity} {schema : EntitySchema} {record : Record} {id : IdPlan}

/-- The id of the entity is a column and has a value. -/
structure HasId (e : Entity) (s : Settings) (schema : EntitySchema) (record : Record)
    (id : IdPlan) : Prop where
  schema_eq : e.type.asEntity s = .ok schema
  record_eq : e.record = .ok record
  id_eq : schema.id = some id
  isColumn : ∃ plan ∈ schema.columns, plan.name = id.name
  present : (record.get id.name).isAbsent = false

variable {f : Statement}

/-- The argument of an INSERT at the place of the id. -/
theorem written_of_inserts {parts : InsertParts}
    (h : f.Inserts e.type (schema.insertColumns record) [record] parts) {place : Nat}
    {plan : FieldPlan EntityRole} (hplace : (schema.insertColumns record)[place]? = some plan)
    (hname : plan.name = id.name) :
    ∃ written, f.args[place]? = some written ∧
      (record.get id.name).bind id.name (e.type.marks.encoding id.name) = .ok written := by
  have harg := h.args_at 0 place record plan rfl hplace
  rwa [Nat.zero_mul, Nat.zero_add, hname] at harg

namespace HasId

/-- An id with a value is among the columns of an INSERT. -/
theorem exists_insertColumn (h : e.HasId s schema record id) :
    ∃ (place : Nat) (plan : FieldPlan EntityRole),
      (schema.insertColumns record)[place]? = some plan ∧ plan.name = id.name := by
  obtain ⟨plan, hplan, hname⟩ := h.isColumn
  have hinserted : plan ∈ schema.insertColumns record := by
    refine List.mem_filter.2 ⟨hplan, ?_⟩
    rw [hname, h.present, Bool.and_false, Bool.not_false]
  obtain ⟨place, hplace⟩ := List.mem_iff_getElem?.1 hinserted
  exact ⟨place, plan, hplace, hname⟩

/-- The last argument of an UPDATE is the id, bound by number. -/
theorem lookedUp_of_updateById (h : e.HasId s schema record id) {presentOnly : Bool}
    (hf : e.updateById s presentOnly = .ok f) :
    ∃ lookedUp, f.args.getLast? = some lookedUp ∧
      (record.get id.name).bind id.name .ordinal = .ok lookedUp := by
  obtain ⟨schema', record', parts, hschema, hrecord, hparts, rfl⟩ := updateById_eq_sql.1 hf
  obtain rfl := ok_unique h.schema_eq hschema
  obtain rfl := ok_unique h.record_eq hrecord
  obtain ⟨id', lookedUp, hid, -, hnumber, hkeys⟩ := hparts.keys_eq
  obtain rfl := Option.some.inj (h.id_eq.symm.trans hid)
  refine ⟨lookedUp, ?_, hnumber⟩
  rw [UpdateParts.sql, args_updateOf, hkeys]
  exact List.getLast?_concat

end HasId

/-- An INSERT of an entity with an id has an argument for the id, at the place of the id's column,
    and an UPDATE of all columns or of those that have a value ends with the id bound by number. The
    two arguments are the same if and only if the variants of the id do not go by their names, or it
    holds no variant. -/
theorem id_looked_up_iff (h : e.HasId s schema record id) {created : Statement}
    (hcreate : e.create s = .ok created) :
    ∃ written parts, created.Inserts e.type (schema.insertColumns record) [record] parts ∧
      (∃ (place : Nat) (plan : FieldPlan EntityRole),
        (schema.insertColumns record)[place]? = some plan ∧ plan.name = id.name) ∧
      (∀ (place : Nat) (plan : FieldPlan EntityRole),
        (schema.insertColumns record)[place]? = some plan → plan.name = id.name →
          plan.column = id.column ∧ created.args[place]? = some written) ∧
      ∀ found, e.update s = .ok found ∨ e.patchById s = .ok found →
        ∃ lookedUp, found.args.getLast? = some lookedUp ∧
          (record.get id.name).bind id.name .ordinal = .ok lookedUp ∧
          (lookedUp = written ↔ ¬(e.type.marks.has id.name .enumAsString = true ∧
            (record.get id.name).HoldsVariant)) := by
  obtain ⟨schema', record', table, hschema, hrecord, hinserts⟩ := create_inserts hcreate
  obtain rfl := ok_unique h.schema_eq hschema
  obtain rfl := ok_unique h.record_eq hrecord
  obtain ⟨names, hb⟩ := RecordType.entitySchema_built hschema
  obtain ⟨place, plan, hplace, hname⟩ := h.exists_insertColumn
  obtain ⟨written, -, hwritten⟩ := written_of_inserts hinserts hplace hname
  refine ⟨written, _, hinserts, ⟨place, plan, hplace, hname⟩, ?_, ?_⟩
  · -- wherever the id stands among the columns, its argument comes from the one value
    intro place' plan' hplace' hname'
    have hcolumn := (List.mem_filter.1 (List.mem_of_getElem? hplace')).1
    obtain ⟨written', hat, hwritten'⟩ := written_of_inserts hinserts hplace' hname'
    rw [ok_unique hwritten hwritten']
    exact ⟨hb.column_of_id hcolumn h.id_eq hname', hat⟩
  · intro found hfound
    have hlast : ∃ lookedUp, found.args.getLast? = some lookedUp ∧
        (record.get id.name).bind id.name .ordinal = .ok lookedUp := by
      rcases hfound with hfound | hfound <;> exact h.lookedUp_of_updateById hfound
    obtain ⟨lookedUp, hlast, hnumber⟩ := hlast
    refine ⟨lookedUp, hlast, hnumber, ?_⟩
    rw [FieldValue.bind_eq_iff hwritten hnumber, Marks.encoding_eq_name_iff]

/-- Badges, with an id of two parts. -/
def badge : RecordType :=
  ⟨"BadgeEntity", some ["id", "label"], "t_badge", none, none, [("id", .id)]⟩

/-- A badge whose id is a kind and a number. -/
def ofBadge : Entity :=
  ⟨badge, .record [("id", .list [.variant 1 "Gold", .text "7"]), ("label", .text "x")]⟩

set_option maxRecDepth 20000 in
theorem hasId_ofBadge :
    ofBadge.HasId .default
      ⟨"BadgeEntity", ⟨"t_badge", [.literal "t_badge".toList]⟩,
        [⟨"id", "id", .column, .ordinal⟩, ⟨"label", "label", .column, .ordinal⟩],
        some ⟨"id", "id", false⟩⟩
      ⟨"BadgeEntity", [("id", .list [.variant 1 "Gold", .scalar (.text "7")]),
        ("label", .scalar (.text "x"))]⟩
      ⟨"id", "id", false⟩ where
  schema_eq := by cbv
  record_eq := by cbv
  id_eq := rfl
  isColumn := ⟨⟨"id", "id", .column, .ordinal⟩, by decide, rfl⟩
  present := by cbv

set_option maxRecDepth 20000 in
theorem id_looked_up_ofBadge :
    ∃ created found lookedUp, ofBadge.create .default = .ok created ∧
      ofBadge.update .default = .ok found ∧ found.args.getLast? = some lookedUp ∧
      created.args[0]? = some lookedUp := by
  have hcreate : ofBadge.create .default =
      .ok ⟨"INSERT INTO t_badge (id, label) VALUES (?, ?)", [.text "[1,\"7\"]", .text "x"]⟩ := by
    cbv
  have hupdate : ofBadge.update .default =
      .ok ⟨"UPDATE t_badge SET label = ? WHERE id = ?", [.text "x", .text "[1,\"7\"]"]⟩ := by cbv
  obtain ⟨written, parts, -, -, hplaces, hlast⟩ := id_looked_up_iff hasId_ofBadge hcreate
  obtain ⟨lookedUp, hlookedUp, -, hsame⟩ := hlast _ (Or.inl hupdate)
  obtain rfl := hsame.2 fun hnamed => absurd hnamed.1 (by decide)
  exact ⟨_, _, lookedUp, hcreate, hupdate, hlookedUp, (hplaces 0 _ rfl rfl).2⟩

/-- Levels that go by their names. -/
def level : RecordType :=
  ⟨"LevelEntity", some ["id", "label"], "t_level", none, none,
    [("id", .id), ("id", .enumAsString)]⟩

/-- The second of the levels. -/
def ofGold : Entity := ⟨level, .record [("id", .variant 1 "Gold"), ("label", .text "x")]⟩

set_option maxRecDepth 20000 in
/-- The id is written by name and looked up by number. -/
theorem id_written_by_name :
    ofGold.create .default =
        .ok ⟨"INSERT INTO t_level (id, label) VALUES (?, ?)", [.text "Gold", .text "x"]⟩ ∧
      ofGold.update .default =
        .ok ⟨"UPDATE t_level SET label = ? WHERE id = ?", [.text "x", .int 1]⟩ ∧
      ofGold.patchById .default =
        .ok ⟨"UPDATE t_level SET label = ? WHERE id = ?", [.text "x", .int 1]⟩ := by
  refine ⟨?_, ?_, ?_⟩ <;> cbv

end CriteriaSql.Entity
