/-
  Values that cannot be bound. The reader puts such a value nowhere but into the field of a record:
  a list with one among its items is itself one. A value is converted if and only if none stands in
  it at any depth, and the error is about the first one, each value before its parts
  (`unsupported_confined_detected`). So a list is never bound without one of its items.
-/
import CriteriaSql.Proofs.Comparison
import CriteriaSql.Proofs.Variants
import Mathlib

namespace CriteriaSql

/-! ## The values within a value -/

namespace FieldValue

mutual

/-- The value and all values within it, each before its parts. -/
def nodes : FieldValue → List FieldValue
  | .list items => .list items :: nodesOfItems items
  | .record fields => .record fields :: nodesOfFields fields
  | value => [value]

/-- The items of a list and all values within them. -/
def nodesOfItems : List FieldValue → List FieldValue
  | [] => []
  | item :: items => item.nodes ++ nodesOfItems items

/-- The values of the fields of a record and all values within them. -/
def nodesOfFields : List (String × FieldValue) → List FieldValue
  | [] => []
  | (_, value) :: fields => value.nodes ++ nodesOfFields fields

end

/-- Why the value itself cannot be bound, if it cannot. -/
def unsupported? : FieldValue → Option Unsupported
  | .unsupported why => some why
  | _ => none

/-- Why the first of the value and the values within it cannot be bound that cannot. -/
def firstUnsupported (value : FieldValue) : Option Unsupported := value.nodes.findSome? unsupported?

theorem mem_nodesOfItems {items : List FieldValue} {node : FieldValue} :
    node ∈ nodesOfItems items ↔ ∃ item ∈ items, node ∈ item.nodes := by
  induction items with
  | nil => simp [nodesOfItems]
  | cons item items ih => simp [nodesOfItems, ih]

theorem mem_nodesOfFields {fields : List (String × FieldValue)} {node : FieldValue} :
    node ∈ nodesOfFields fields ↔ ∃ f ∈ fields, node ∈ f.2.nodes := by
  induction fields with
  | nil => simp [nodesOfFields]
  | cons f fields ih => simp [nodesOfFields, ih]

theorem unsupported?_eq_some_iff {value : FieldValue} {why : Unsupported} :
    value.unsupported? = some why ↔ value = .unsupported why := by
  cases value <;> simp [unsupported?]

theorem exists_firstUnsupported_iff {value : FieldValue} :
    (∃ why, value.firstUnsupported = some why) ↔ ∃ why, .unsupported why ∈ value.nodes := by
  rw [← Option.isSome_iff_exists, firstUnsupported, List.findSome?_isSome_iff]
  constructor
  · rintro ⟨node, hnode, hwhy⟩
    obtain ⟨why, hwhy⟩ := Option.isSome_iff_exists.1 hwhy
    obtain rfl := unsupported?_eq_some_iff.1 hwhy
    exact ⟨why, hnode⟩
  · rintro ⟨why, hnode⟩
    exact ⟨_, hnode, rfl⟩

/-! ## Conversions -/

variable {encoding : Encoding}

mutual

/-- A conversion fails with the first part that cannot be bound. -/
theorem toJson_eq_error_iff {why : Unsupported} : ∀ value : FieldValue,
    value.toJson encoding = .error why ↔ value.firstUnsupported = some why
  | .absent | .flag _ | .scalar _ | .unsupported _ => by
    simp [toJson, firstUnsupported, nodes, unsupported?]
  | .variant _ _ => by cases encoding <;> simp [toJson, firstUnsupported, nodes, unsupported?]
  | .list items => by
    rw [toJson, map_eq_error, itemsToJson_eq_error_iff items, firstUnsupported, nodes]
    rfl
  | .record fields => by
    rw [toJson, map_eq_error, fieldsToJson_eq_error_iff fields, firstUnsupported, nodes]
    rfl

theorem itemsToJson_eq_error_iff {why : Unsupported} : ∀ items : List FieldValue,
    itemsToJson encoding items = .error why ↔
      (nodesOfItems items).findSome? unsupported? = some why
  | [] => by simp [itemsToJson, nodesOfItems]
  | item :: items => by
    rw [itemsToJson, nodesOfItems, List.findSome?_append]
    exact bind₂_eq_error_iff (fun _ => toJson_eq_error_iff item) (itemsToJson_eq_error_iff items)

theorem fieldsToJson_eq_error_iff {why : Unsupported} : ∀ fields : List (String × FieldValue),
    fieldsToJson encoding fields = .error why ↔
      (nodesOfFields fields).findSome? unsupported? = some why
  | [] => by simp [fieldsToJson, nodesOfFields]
  | (name, value) :: fields => by
    rw [fieldsToJson, nodesOfFields, List.findSome?_append]
    exact bind₂_eq_error_iff (fun _ => toJson_eq_error_iff value)
      (fieldsToJson_eq_error_iff fields)

end

variable {field : String} {value : FieldValue} {e : Error}

theorem operand_eq_error_iff :
    value.operand field encoding = .error e ↔
      ∃ why, value.firstUnsupported = some why ∧ e = .valueShape field (.notBindable why) := by
  simp only [← @toJson_eq_error_iff encoding]
  unfold operand
  cases value.toJson encoding <;> simp [Except.mapError, eq_comm]

theorem bind_eq_error_iff :
    value.bind field encoding = .error e ↔
      ∃ why, value.firstUnsupported = some why ∧ e = .valueShape field (.notBindable why) := by
  rw [bind_eq_operand, map_eq_error, operand_eq_error_iff]

/-- What fails with the first part that cannot be bound fails where there is one. -/
theorem exists_error_iff {α : Type} {x : Except Error α}
    (h : ∀ e, x = .error e ↔
      ∃ why, value.firstUnsupported = some why ∧ e = .valueShape field (.notBindable why)) :
    (∃ e, x = .error e) ↔ ∃ why, .unsupported why ∈ value.nodes := by
  simp only [h, ← exists_firstUnsupported_iff]
  constructor
  · rintro ⟨e, why, hwhy, -⟩
    exact ⟨why, hwhy⟩
  · rintro ⟨why, hwhy⟩
    exact ⟨_, why, hwhy, rfl⟩

/-! ## Where such values stand -/

/-- No list within the value has an item that cannot be bound. -/
def Confined (value : FieldValue) : Prop :=
  ∀ items, .list items ∈ value.nodes → ∀ why, .unsupported why ∉ items

theorem confined_of_single (h : value.isCompound = false) : value.Confined := by
  intro items hitems
  cases value with
  | list items => cases h
  | record fields => cases h
  | _ => simp [nodes] at hitems

theorem confined_list {items : List FieldValue} (hself : ∀ why, .unsupported why ∉ items)
    (hitems : ∀ item ∈ items, item.Confined) : (list items).Confined := by
  intro inner hinner
  rw [nodes, List.mem_cons, mem_nodesOfItems] at hinner
  rcases hinner with hinner | ⟨item, hitem, hinner⟩
  · cases hinner
    exact hself
  · exact hitems item hitem inner hinner

theorem confined_record {fields : List (String × FieldValue)}
    (h : ∀ f ∈ fields, f.2.Confined) : (record fields).Confined := by
  intro inner hinner
  rw [nodes, List.mem_cons, mem_nodesOfFields] at hinner
  rcases hinner with hinner | ⟨f, hf, hinner⟩
  · cases hinner
  · exact h f hf inner hinner

/-- What stands in a value is the value, an item of a list in it or held by a field in it. -/
theorem cases_of_mem_nodes {node : FieldValue} (h : node ∈ value.nodes) :
    node = value ∨ (∃ items, .list items ∈ value.nodes ∧ node ∈ items) ∨
      ∃ fields, .record fields ∈ value.nodes ∧ ∃ name, (name, node) ∈ fields := by
  induction value using nestedInduction with
  | single value hsingle =>
    cases value with
    | list items => cases hsingle
    | record fields => cases hsingle
    | _ => exact Or.inl (by simpa [nodes] using h)
  | list items ih =>
    rw [nodes, List.mem_cons, mem_nodesOfItems] at h
    rcases h with h | ⟨item, hitem, h⟩
    · exact Or.inl h
    have hwithin {inner : FieldValue} (hinner : inner ∈ item.nodes) :
        inner ∈ (list items).nodes := by
      rw [nodes, List.mem_cons, mem_nodesOfItems]
      exact Or.inr ⟨item, hitem, hinner⟩
    rcases ih item hitem h with rfl | ⟨inner, hinner, hnode⟩ | ⟨fields, hfields, hnode⟩
    · exact Or.inr (Or.inl ⟨items, by simp [nodes], hitem⟩)
    · exact Or.inr (Or.inl ⟨inner, hwithin hinner, hnode⟩)
    · exact Or.inr (Or.inr ⟨fields, hwithin hfields, hnode⟩)
  | record fields ih =>
    rw [nodes, List.mem_cons, mem_nodesOfFields] at h
    rcases h with h | ⟨⟨name, held⟩, hf, h⟩
    · exact Or.inl h
    have hwithin {inner : FieldValue} (hinner : inner ∈ held.nodes) :
        inner ∈ (record fields).nodes := by
      rw [nodes, List.mem_cons, mem_nodesOfFields]
      exact Or.inr ⟨(name, held), hf, hinner⟩
    rcases ih (name, held) hf h with hself | ⟨items, hitems, hnode⟩ | ⟨inner, hinner, hnode⟩
    · obtain rfl : node = held := hself
      exact Or.inr (Or.inr ⟨fields, by simp [nodes], name, hf⟩)
    · exact Or.inr (Or.inl ⟨items, hwithin hitems, hnode⟩)
    · exact Or.inr (Or.inr ⟨inner, hwithin hinner, hnode⟩)

end FieldValue

namespace Datum

mutual

/-- What is read of a value can be bound by itself, and nothing in it that cannot is in a list. -/
theorem confined_of_read {v : FieldValue} (optional : Bool) : ∀ d : Datum,
    d.read optional = .ok v → v.Confined ∧ v.unsupported? = none
  | .missing, h | .single _, h | .double _, h | .char _, h | .text _, h | .unit, h
  | .variant _ _, h => by
    cases h
    exact ⟨FieldValue.confined_of_single rfl, rfl⟩
  | .bool _, h => by
    cases h
    cases optional <;> exact ⟨FieldValue.confined_of_single rfl, rfl⟩
  | .int type n, h => by
    rw [read, readInt] at h
    split at h
    · split at h <;> cases h
      exact ⟨FieldValue.confined_of_single rfl, rfl⟩
    · cases h
      exact ⟨FieldValue.confined_of_single rfl, rfl⟩
  | .present value, h => confined_of_read true value h
  | .wrapped value, h => confined_of_read optional value h
  | .list items, h => by
    obtain ⟨vs, hvs, rfl⟩ := map_eq_ok.1 h
    have hitems := confined_of_readItems items hvs
    refine ⟨FieldValue.confined_list (fun why hwhy => ?_) fun v hv => (hitems v hv).1, rfl⟩
    cases (hitems _ hwhy).2
  | .record fields, h => by
    cases h
    exact ⟨FieldValue.confined_record (confined_of_mem_readFields fields), rfl⟩

theorem confined_of_readItems {vs : List FieldValue} : ∀ items : List Datum,
    readItems items = .ok vs → ∀ v ∈ vs, v.Confined ∧ v.unsupported? = none
  | [], h => by
    cases h
    simp
  | item :: items, h => by
    simp only [readItems, bind_eq_ok, pure_eq_ok] at h
    obtain ⟨v, hv, vs, hvs, rfl⟩ := h
    exact List.forall_mem_cons.2
      ⟨confined_of_read false item hv, confined_of_readItems items hvs⟩

theorem confined_of_mem_readFields : ∀ fields : List (String × Datum),
    ∀ f ∈ readFields fields, f.2.Confined
  | [] => by simp [readFields]
  | (name, value) :: fields => by
    rw [readFields, List.forall_mem_cons]
    refine ⟨?_, confined_of_mem_readFields fields⟩
    split
    next v hv => exact (confined_of_read false value hv).1
    next cause _ => cases cause <;> exact FieldValue.confined_of_single rfl

end

end Datum

/-! ## Records -/

namespace Record

variable {typeName : String} {d : Datum} {r : Record}

theorem confined_of_read (h : Record.read typeName d = .ok r) :
    (FieldValue.record r.entries).Confined := by
  unfold Record.read at h
  split at h
  next entries hread =>
    cases h
    exact (Datum.confined_of_read false d hread).1
  all_goals cases h

end Record

/-- What cannot be bound stands in a record that is read only as the value of a field, never among
    the items of a list. A value is converted, to JSON or to an argument, exactly where nothing in
    it cannot be bound, and the error is about the first part that cannot. A list that is bound is
    bound with all its items. -/
theorem unsupported_confined_detected :
    (∀ typeName d r, Record.read typeName d = .ok r → ∀ why,
      (∀ items, .list items ∈ (FieldValue.record r.entries).nodes → .unsupported why ∉ items) ∧
      (.unsupported why ∈ (FieldValue.record r.entries).nodes →
        ∃ fields, .record fields ∈ (FieldValue.record r.entries).nodes ∧
          ∃ name, (name, .unsupported why) ∈ fields)) ∧
    (∀ (value : FieldValue) field encoding,
      ((∃ e, value.operand field encoding = .error e) ↔ ∃ why, .unsupported why ∈ value.nodes) ∧
      ((∃ e, value.bind field encoding = .error e) ↔ ∃ why, .unsupported why ∈ value.nodes) ∧
      ∀ e, (value.operand field encoding = .error e ↔
          ∃ why, value.firstUnsupported = some why ∧ e = .valueShape field (.notBindable why)) ∧
        (value.bind field encoding = .error e ↔
          ∃ why, value.firstUnsupported = some why ∧ e = .valueShape field (.notBindable why))) ∧
    ∀ items field encoding arg, (FieldValue.list items).bind field encoding = .ok arg →
      ∃ js, List.Forall₂ (fun item j => item.operand field encoding = .ok j) items js ∧
        (FieldValue.list items).operand field encoding = .ok (.array js) ∧
        arg = .text (Json.array js).compact := by
  refine ⟨fun typeName d r hr why => ⟨fun items hitems => ?_, fun hwhy => ?_⟩,
    fun value field encoding => ⟨?_, ?_, fun e => ⟨?_, ?_⟩⟩,
    fun items field encoding arg harg => ?_⟩
  · exact Record.confined_of_read hr items hitems why
  · obtain hself | ⟨items, hitems, hnode⟩ | hfield := FieldValue.cases_of_mem_nodes hwhy
    · cases hself
    · exact absurd hnode (Record.confined_of_read hr items hitems why)
    · exact hfield
  · exact FieldValue.exists_error_iff fun e => FieldValue.operand_eq_error_iff
  · exact FieldValue.exists_error_iff fun e => FieldValue.bind_eq_error_iff
  · exact FieldValue.operand_eq_error_iff
  · exact FieldValue.bind_eq_error_iff
  · rw [FieldValue.bind_eq_operand] at harg
    obtain ⟨j, hj, rfl⟩ := map_eq_ok.1 harg
    have hoperand := hj
    rw [FieldValue.operand_list] at hj
    obtain ⟨js, hjs, rfl⟩ := map_eq_ok.1 hj
    exact ⟨js, mapM_eq_ok.1 hjs, hoperand, rfl⟩

/-- A list of tags, of which one has a map among its fields, and a list that holds bytes. -/
def ofTags : Datum :=
  .record [("tags", .list [.text "a", .record [("attrs", .compound .map)]]),
    ("codes", .list [.compound .bytes])]

/-- The tags are a list that cannot be bound for the map in it, the codes are no list at all. -/
theorem unsupported_confined_ofTags :
    let tags : FieldValue :=
      .list [.scalar (.text "a"), .record [("attrs", .unsupported (.compound .map))]]
    let r : Record := ⟨"UserQuery", [("tags", tags), ("codes", .unsupported (.compound .bytes))]⟩
    Record.read "UserQuery" ofTags = .ok r ∧
      (∀ why items, .list items ∈ (FieldValue.record r.entries).nodes →
        .unsupported why ∉ items) ∧
      tags.bind "tags" .ordinal = .error (.valueShape "tags" (.notBindable (.compound .map))) := by
  intro tags r
  have hr : Record.read "UserQuery" ofTags = .ok r := rfl
  obtain ⟨hconfined, hdetected, -⟩ := unsupported_confined_detected
  refine ⟨hr, fun why => (hconfined _ _ r hr why).1, ?_⟩
  exact ((hdetected tags "tags" .ordinal).2.2 _).2.2 ⟨.compound .map, rfl, rfl⟩

end CriteriaSql
