/-
  Variants in arguments. A variant is bound by its number or by its name; a collection or a record
  is bound as its JSON text, with the variants in it by number or by name. The two arguments of a
  value are the same exactly where no variant stands in it (`bind_eq_iff`): up to the first variant
  the two texts have everything in common, and there one of them goes on with a digit and the other
  one with a quote.
-/
import CriteriaSql.Proofs.Outcome
import CriteriaSql.Value.Record

namespace CriteriaSql

/-! ## Texts that part -/

namespace Text

/-- Behind what the two texts have in common, they go on with different characters. -/
def Part (s t : String) : Prop :=
  ∃ common c d restS restT,
    s.toList = common ++ c :: restS ∧ t.toList = common ++ d :: restT ∧ c ≠ d

namespace Part

variable {s t : String}

theorem ne (h : Part s t) : s ≠ t := by
  rintro rfl
  obtain ⟨common, c, d, restS, restT, hs, ht, hne⟩ := h
  rw [hs, List.append_cancel_left_eq, List.cons.injEq] at ht
  exact hne ht.1

theorem of_heads {c d : Char} {restS restT : List Char} (hs : s.toList = c :: restS)
    (ht : t.toList = d :: restT) (hne : c ≠ d) : Part s t :=
  ⟨[], c, d, restS, restT, hs, ht, hne⟩

theorem append_left (h : Part s t) (u : String) : Part (u ++ s) (u ++ t) := by
  obtain ⟨common, c, d, restS, restT, hs, ht, hne⟩ := h
  refine ⟨u.toList ++ common, c, d, restS, restT, ?_, ?_, hne⟩
  · rw [String.toList_append, hs, List.append_assoc]
  · rw [String.toList_append, ht, List.append_assoc]

theorem append_right (h : Part s t) (u v : String) : Part (s ++ u) (t ++ v) := by
  obtain ⟨common, c, d, restS, restT, hs, ht, hne⟩ := h
  refine ⟨common, c, d, restS ++ u.toList, restT ++ v.toList, ?_, ?_, hne⟩
  · rw [String.toList_append, hs, List.append_assoc, List.cons_append]
  · rw [String.toList_append, ht, List.append_assoc, List.cons_append]

end Part

/-- The texts part where `p` holds, and are the same where it does not. -/
structure PartIff (p : Prop) (s t : String) : Prop where
  part : p → Part s t
  same : ¬p → s = t

namespace PartIff

variable {p q : Prop} {s t : String}

theorem eq_iff (h : PartIff p s t) : s = t ↔ ¬p := by
  constructor
  · intro heq hp
    exact (h.part hp).ne heq
  · exact h.same

theorem append_left (h : PartIff p s t) (u : String) : PartIff p (u ++ s) (u ++ t) :=
  ⟨fun hp => (h.part hp).append_left u, fun hn => by rw [h.same hn]⟩

theorem append_right (h : PartIff p s t) (u : String) : PartIff p (s ++ u) (t ++ u) :=
  ⟨fun hp => (h.part hp).append_right u u, fun hn => by rw [h.same hn]⟩

/-- One text behind another parts where either of the two does. -/
theorem append {s' t' : String} (h : PartIff p s t) (h' : PartIff q s' t') :
    PartIff (p ∨ q) (s ++ s') (t ++ t') := by
  constructor
  · intro hpq
    by_cases hp : p
    · exact (h.part hp).append_right s' t'
    · rw [h.same hp]
      exact (h'.part (hpq.resolve_left hp)).append_left t
  · intro hn
    rw [h.same fun hp => hn (Or.inl hp), h'.same fun hq => hn (Or.inr hq)]

/-- Texts with a separator between them part where any two of them do. -/
theorem intercalate {ε α : Type} {f g : α → Except ε String} {holds : α → Prop} {xs : List α}
    {ss ts : List String} (separator : String) (hs : xs.mapM f = .ok ss) (ht : xs.mapM g = .ok ts)
    (h : ∀ x ∈ xs, ∀ s t, f x = .ok s → g x = .ok t → PartIff (holds x) s t) :
    PartIff (∃ x ∈ xs, holds x) (separator.intercalate ss) (separator.intercalate ts) := by
  rw [mapM_eq_ok] at hs ht
  induction hs generalizing ts with
  | nil =>
    cases ht
    exact ⟨fun hp => by simp at hp, fun _ => rfl⟩
  | @cons x s xs ss hx hxs ih =>
    cases ht with
    | @cons _ t _ ts hy hys =>
      have hhead : PartIff (holds x) s t := h x List.mem_cons_self s t hx hy
      have htail := ih hys fun x hm => h x (List.mem_cons_of_mem _ hm)
      rw [show (∃ y ∈ x :: xs, holds y) ↔ holds x ∨ ∃ y ∈ xs, holds y by simp]
      cases hxs with
      | nil =>
        cases hys
        have hnone : ¬∃ y ∈ ([] : List α), holds y := by simp
        simpa [hnone] using hhead
      | cons hx' hxs' =>
        cases hys with
        | cons hy' hys' =>
          rw [String.intercalate_cons_of_ne_nil (List.cons_ne_nil _ _),
            String.intercalate_cons_of_ne_nil (List.cons_ne_nil _ _)]
          exact (hhead.append_right separator).append htail

end PartIff

end Text

/-! ## Fields of a record -/

namespace Json

variable {α β : Type}

theorem mem_of_mem_putField {fields : List (String × α)} {key : String} {value : α}
    {entry : String × α} (h : entry ∈ putField fields key value) :
    entry ∈ fields ∨ entry = (key, value) := by
  induction fields with
  | nil => exact Or.inr (List.mem_singleton.1 h)
  | cons f fields ih =>
    obtain ⟨k, v⟩ := f
    rw [putField] at h
    split at h
    next hk =>
      rcases List.mem_cons.1 h with rfl | h
      · exact Or.inr (by rw [hk])
      · exact Or.inl (List.mem_cons_of_mem _ h)
    next =>
      rcases List.mem_cons.1 h with rfl | h
      · exact Or.inl List.mem_cons_self
      · exact (ih h).imp_left (List.mem_cons_of_mem _)

/-- What is left of the fields where each key is kept once is one of the fields. -/
theorem mem_of_mem_distinctFields {fields : List (String × α)} {entry : String × α}
    (h : entry ∈ distinctFields fields) : entry ∈ fields := by
  have hfold : ∀ (fields done : List (String × α)),
      entry ∈ fields.foldl (fun done f => putField done f.1 f.2) done →
        entry ∈ done ∨ entry ∈ fields := by
    intro fields
    induction fields with
    | nil => exact fun done hm => Or.inl hm
    | cons f fields ih =>
      intro done hm
      rcases ih _ hm with hm | hm
      · rcases mem_of_mem_putField hm with hm | rfl
        · exact Or.inl hm
        · exact Or.inr List.mem_cons_self
      · exact Or.inr (List.mem_cons_of_mem _ hm)
  exact (hfold fields [] h).resolve_left List.not_mem_nil

variable {R : α → β → Prop}

theorem forall₂_putField {fs : List (String × α)} {gs : List (String × β)} {key : String}
    {value : α} {value' : β} (h : List.Forall₂ (fun f g => f.1 = g.1 ∧ R f.2 g.2) fs gs)
    (hvalue : R value value') :
    List.Forall₂ (fun f g => f.1 = g.1 ∧ R f.2 g.2) (putField fs key value)
      (putField gs key value') := by
  induction h with
  | nil => exact .cons ⟨rfl, hvalue⟩ .nil
  | @cons f g fs gs hfg h ih =>
    obtain ⟨k, v⟩ := f
    obtain ⟨k', v'⟩ := g
    obtain ⟨rfl, hv⟩ : k = k' ∧ R v v' := hfg
    rw [putField, putField]
    split
    · exact .cons ⟨rfl, hvalue⟩ h
    · exact .cons ⟨rfl, hv⟩ ih

/-- Keeping each key once goes by the keys alone. -/
theorem forall₂_distinctFields {fs : List (String × α)} {gs : List (String × β)}
    (h : List.Forall₂ (fun f g => f.1 = g.1 ∧ R f.2 g.2) fs gs) :
    List.Forall₂ (fun f g => f.1 = g.1 ∧ R f.2 g.2) (distinctFields fs) (distinctFields gs) := by
  have hfold : ∀ {done : List (String × α)} {done' : List (String × β)},
      List.Forall₂ (fun f g => f.1 = g.1 ∧ R f.2 g.2) done done' →
        List.Forall₂ (fun f g => f.1 = g.1 ∧ R f.2 g.2)
          (fs.foldl (fun done f => putField done f.1 f.2) done)
          (gs.foldl (fun done g => putField done g.1 g.2) done') := by
    induction h with
    | nil => exact fun hdone => hdone
    | @cons f g fs gs hfg _ ih =>
      intro done done' hdone
      rw [List.foldl_cons, List.foldl_cons, hfg.1]
      exact ih (forall₂_putField hdone hfg.2)
  exact hfold .nil

theorem compactItems_eq_map (items : List Json) : compactItems items = items.map compact := by
  induction items with
  | nil => rfl
  | cons item items ih => rw [compactItems, ih, List.map_cons]

theorem compactFields_eq_map (fields : List (String × Json)) :
    compactFields fields = fields.map fun f => stringText f.1 ++ ":" ++ f.2.compact := by
  induction fields with
  | nil => rfl
  | cons f fields ih => rw [compactFields, ih, List.map_cons]

end Json

/-! ## Variants -/

namespace FieldValue

/-- Induction over values: a collection is settled once its items are, and a record once the values
    of its fields are. -/
@[elab_as_elim]
theorem nestedInduction {motive : FieldValue → Prop}
    (single : ∀ value, value.isCompound = false → motive value)
    (list : ∀ items, (∀ item ∈ items, motive item) → motive (.list items))
    (record : ∀ fields, (∀ f ∈ fields, motive f.2) → motive (.record fields)) :
    ∀ value, motive value
  | .list items => list items fun item hm =>
    have hlt : sizeOf item < sizeOf (FieldValue.list items) :=
      Nat.lt_of_lt_of_le (List.sizeOf_lt_of_mem hm) (by simp)
    nestedInduction single list record item
  | .record fields => record fields fun (name, value) hm =>
    have hlt : sizeOf value < sizeOf (FieldValue.record fields) := by
      have hmem := List.sizeOf_lt_of_mem hm
      simp only [Prod.mk.sizeOf_spec, FieldValue.record.sizeOf_spec] at hmem ⊢
      omega
    nestedInduction single list record value
  | .absent => single _ rfl
  | .flag _ => single _ rfl
  | .scalar _ => single _ rfl
  | .variant _ _ => single _ rfl
  | .unsupported _ => single _ rfl
termination_by value => sizeOf value
decreasing_by all_goals exact hlt

/-- A variant stands somewhere in the value. Of the fields of one name in a record, the last one
    counts. -/
inductive HoldsVariant : FieldValue → Prop
  | variant (index : Nat) (name : String) : HoldsVariant (.variant index name)
  | item {items : List FieldValue} {item : FieldValue} (hm : item ∈ items)
      (h : HoldsVariant item) : HoldsVariant (.list items)
  | field {fields : List (String × FieldValue)} {f : String × FieldValue}
      (hm : f ∈ Json.distinctFields fields) (h : HoldsVariant f.2) : HoldsVariant (.record fields)

theorem holdsVariant_list {items : List FieldValue} :
    (list items).HoldsVariant ↔ ∃ item ∈ items, item.HoldsVariant := by
  constructor
  · rintro (_ | ⟨hm, h⟩)
    exact ⟨_, hm, h⟩
  · rintro ⟨item, hm, h⟩
    exact .item hm h

theorem holdsVariant_record {fields : List (String × FieldValue)} :
    (record fields).HoldsVariant ↔ ∃ f ∈ Json.distinctFields fields, f.2.HoldsVariant := by
  constructor
  · rintro (_ | _ | ⟨hm, h⟩)
    exact ⟨_, hm, h⟩
  · rintro ⟨f, hm, h⟩
    exact .field hm h

/-- Outside collections and records only a variant holds one. -/
theorem holdsVariant_of_single {value : FieldValue} (h : value.isCompound = false) :
    value.HoldsVariant ↔ ∃ index name, value = .variant index name := by
  constructor
  · intro hv
    cases hv with
    | variant index name => exact ⟨index, name, rfl⟩
    | item => cases h
    | field => cases h
  · rintro ⟨index, name, rfl⟩
    exact .variant index name

/-! ## JSON texts -/

/-- The text of the value's JSON form. -/
def jsonText (encoding : Encoding) (value : FieldValue) : Except Unsupported String :=
  (value.toJson encoding).map Json.compact

/-- The text of a field in the JSON form of a record. -/
def fieldText (encoding : Encoding) (f : String × FieldValue) : Except Unsupported String :=
  (f.2.jsonText encoding).map fun text => Json.stringText f.1 ++ ":" ++ text

variable {encoding : Encoding}

theorem itemsToJson_eq_ok {items : List FieldValue} {js : List Json}
    (h : itemsToJson encoding items = .ok js) :
    List.Forall₂ (fun item j => item.toJson encoding = .ok j) items js := by
  induction items generalizing js with
  | nil =>
    cases h
    exact .nil
  | cons item items ih =>
    simp only [itemsToJson, bind_eq_ok, pure_eq_ok] at h
    obtain ⟨j, hj, js, hjs, rfl⟩ := h
    exact .cons hj (ih hjs)

theorem fieldsToJson_eq_ok {fields : List (String × FieldValue)} {js : List (String × Json)}
    (h : fieldsToJson encoding fields = .ok js) :
    List.Forall₂ (fun f j => f.1 = j.1 ∧ f.2.toJson encoding = .ok j.2) fields js := by
  induction fields generalizing js with
  | nil =>
    cases h
    exact .nil
  | cons f fields ih =>
    obtain ⟨name, value⟩ := f
    simp only [fieldsToJson, bind_eq_ok, pure_eq_ok] at h
    obtain ⟨j, hj, js, hjs, rfl⟩ := h
    exact .cons ⟨rfl, hj⟩ (ih hjs)

theorem jsonText_list {items : List FieldValue} {text : String}
    (h : (list items).jsonText encoding = .ok text) :
    ∃ texts, items.mapM (jsonText encoding) = .ok texts ∧
      "[" ++ ",".intercalate texts ++ "]" = text := by
  simp only [jsonText, toJson, map_eq_ok] at h
  obtain ⟨j, ⟨js, hjs, rfl⟩, rfl⟩ := h
  refine ⟨js.map Json.compact, ?_, by rw [Json.compact, Json.compactItems_eq_map]⟩
  rw [mapM_eq_ok, List.forall₂_map_right_iff]
  exact (itemsToJson_eq_ok hjs).imp fun item j hj => map_eq_ok.2 ⟨j, hj, rfl⟩

theorem jsonText_record {fields : List (String × FieldValue)} {text : String}
    (h : (record fields).jsonText encoding = .ok text) :
    ∃ texts, (Json.distinctFields fields).mapM (fieldText encoding) = .ok texts ∧
      "\x7b" ++ ",".intercalate texts ++ "\x7d" = text := by
  simp only [jsonText, toJson, map_eq_ok] at h
  obtain ⟨j, ⟨js, hjs, rfl⟩, rfl⟩ := h
  refine ⟨_, ?_, by rw [Json.compact, Json.compactFields_eq_map]⟩
  rw [mapM_eq_ok, List.forall₂_map_right_iff]
  have hdistinct := Json.forall₂_distinctFields
    (R := fun value j => toJson encoding value = .ok j) (fieldsToJson_eq_ok hjs)
  refine hdistinct.imp ?_
  rintro f j ⟨hkey, hj⟩
  exact map_eq_ok.2 ⟨j.2.compact, map_eq_ok.2 ⟨j.2, hj, rfl⟩, by rw [hkey]⟩

/-- The number of a variant begins with a digit, its name with a quote. -/
theorem part_variant (index : Nat) (name : String) :
    Text.Part (Json.int index).compact (Json.text name).compact := by
  have hdigits : (Json.int index).compact.toList = Nat.toDigits 10 index := Nat.toList_repr
  obtain ⟨c, rest, hc⟩ := List.exists_cons_of_ne_nil (Nat.toDigits_ne_nil (b := 10) (n := index))
  have hdigit : c.isDigit = true := by
    refine Nat.isDigit_of_mem_toDigits (b := 10) (n := index) (by decide) (by decide) ?_
    rw [hc]
    exact List.mem_cons_self
  have hname : (Json.text name).compact.toList =
      '"' :: (name.toList.flatMap Json.escapeChar ++ ['"']) := by
    simp [Json.text, Json.compact, Scalar.compact, Json.stringText]
  refine Text.Part.of_heads (hdigits.trans hc) hname ?_
  rintro rfl
  exact absurd hdigit (by decide)

/-- The JSON texts of a value under the two encodings part where a variant stands in it, and are
    the same where none does. -/
theorem jsonText_partIff {value : FieldValue} {byNumber byName : String}
    (hnumber : value.jsonText .ordinal = .ok byNumber) (hname : value.jsonText .name = .ok byName) :
    Text.PartIff value.HoldsVariant byNumber byName := by
  induction value using nestedInduction generalizing byNumber byName with
  | single value hsingle =>
    rw [holdsVariant_of_single hsingle]
    cases value with
    | variant index name =>
      cases hnumber
      cases hname
      exact ⟨fun _ => part_variant index name, fun hn => absurd ⟨index, name, rfl⟩ hn⟩
    | list items => cases hsingle
    | record fields => cases hsingle
    | _ => exact ⟨fun ⟨_, _, hv⟩ => (by cases hv), fun _ => ok_unique hnumber hname⟩
  | list items ih =>
    obtain ⟨texts, htexts, rfl⟩ := jsonText_list hnumber
    obtain ⟨texts', htexts', rfl⟩ := jsonText_list hname
    have hitems : Text.PartIff (∃ item ∈ items, item.HoldsVariant) (",".intercalate texts)
        (",".intercalate texts') :=
      .intercalate "," htexts htexts' fun item hm _ _ hitem hitem' => ih item hm hitem hitem'
    rw [holdsVariant_list]
    exact (hitems.append_left "[").append_right "]"
  | record fields ih =>
    obtain ⟨texts, htexts, rfl⟩ := jsonText_record hnumber
    obtain ⟨texts', htexts', rfl⟩ := jsonText_record hname
    have hfields : Text.PartIff (∃ f ∈ Json.distinctFields fields, f.2.HoldsVariant)
        (",".intercalate texts) (",".intercalate texts') := by
      refine .intercalate "," htexts htexts' fun f hm _ _ hf hf' => ?_
      obtain ⟨text, htext, rfl⟩ := map_eq_ok.1 hf
      obtain ⟨text', htext', rfl⟩ := map_eq_ok.1 hf'
      exact (ih f (Json.mem_of_mem_distinctFields hm) htext htext').append_left _
    rw [holdsVariant_record]
    exact (hfields.append_left "\x7b").append_right "\x7d"

/-! ## Arguments -/

/-- A collection or a record is bound as its JSON text. -/
theorem toScalar_of_compound {value : FieldValue} (h : value.isCompound = true) :
    value.toScalar encoding = (value.jsonText encoding).map Scalar.text := by
  cases value with
  | list items =>
    simp only [toScalar, jsonText, toJson]
    cases itemsToJson encoding items <;> rfl
  | record fields =>
    simp only [toScalar, jsonText, toJson]
    cases fieldsToJson encoding fields <;> rfl
  | _ => cases h

/-- Bound by number and bound by name, a value is the same argument where no variant stands in
    it. -/
theorem toScalar_eq_iff {value : FieldValue} {byNumber byName : Scalar}
    (hnumber : value.toScalar .ordinal = .ok byNumber) (hname : value.toScalar .name = .ok byName) :
    byNumber = byName ↔ ¬value.HoldsVariant := by
  cases hcompound : value.isCompound with
  | true =>
    rw [toScalar_of_compound hcompound, map_eq_ok] at hnumber hname
    obtain ⟨text, htext, rfl⟩ := hnumber
    obtain ⟨text', htext', rfl⟩ := hname
    rw [Scalar.text.injEq]
    exact (jsonText_partIff htext htext').eq_iff
  | false =>
    rw [holdsVariant_of_single hcompound]
    cases value with
    | variant index name =>
      cases hnumber
      cases hname
      simp [Json.int, Json.text, Json.toScalar]
    | list items => cases hcompound
    | record fields => cases hcompound
    | _ => simp [ok_unique hnumber hname]

/-- What a field is bound to under its own encoding is what it is bound to by number, unless its
    variants go by name and one stands in the value. -/
theorem bind_eq_iff {value : FieldValue} {field : String} {own byNumber : Scalar}
    (hown : value.bind field encoding = .ok own)
    (hnumber : value.bind field .ordinal = .ok byNumber) :
    byNumber = own ↔ ¬(encoding = .name ∧ value.HoldsVariant) := by
  cases encoding with
  | ordinal => simp [ok_unique hnumber hown]
  | name =>
    rw [bind, mapError_eq_ok] at hown hnumber
    rw [toScalar_eq_iff hnumber hown]
    simp

end FieldValue

end CriteriaSql
