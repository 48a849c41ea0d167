/-
  Rendering of templates. A placeholder takes the text of its field's value without blanks, and only
  where ASCII letters, digits and underscores are left; so a rendered text is the source with such
  characters for its placeholders, and a value that has no such text is refused, the first one in
  the source first (`render_fills`). No character is checked where none is left: the empty text
  passes.
-/
import CriteriaSql.Proofs.Schemas
import Mathlib

namespace CriteriaSql

/-- The text of a JSON value in a name: a string as it is, any other value in its compact form. -/
def Json.plainText : Json → String
  | .scalar (.text s) => s
  | json => json.compact

namespace FieldValue

/-- The text of the value's JSON form without blanks, if the value has a form other than null.
    A variant stands for its name. -/
def HasText (value : FieldValue) (text : List Char) : Prop :=
  ∃ json, value.toJson .name = .ok json ∧ json ≠ Json.null ∧
    json.plainText.toList.filter (fun c => !Text.isBlank c) = text

/-- The text that the value puts in the place of a placeholder: ASCII letters, digits and
    underscores. -/
def Fills (value : FieldValue) (text : List Char) : Prop :=
  value.HasText text ∧ ∀ c ∈ text, Text.isAsciiWord c = true

end FieldValue

/-- A piece with the texts of the fields in the places of the placeholders. -/
def Segment.fill (texts : String → List Char) : Segment → List Char
  | .literal text => text
  | .field name => texts name

namespace Template

/-- Why a field's value cannot stand in the place of its placeholder. -/
inductive Refuses (t : Template) (name : String) (value : FieldValue) : Error → Prop
  | shape {why : Unsupported} (h : value.toJson .name = .error why) :
      Refuses t name value (.valueShape name (.notBindable why))
  | missing (h : value.toJson .name = .ok Json.null) :
      Refuses t name value (.missingTemplateValue t.source name)
  | letter {text : List Char} {c : Char} (h : value.HasText text) (hc : c ∈ text)
      (hword : Text.isAsciiWord c = false) :
      Refuses t name value (.invalidTemplateValue t.source name)

/-! ## Values -/

variable {t : Template} {record : Record} {name : String} {value : FieldValue} {e : Error}

theorem valueText_of_json {json : Json} (h : value.toJson .name = .ok json)
    (hnull : json ≠ Json.null) : t.valueText name value = .ok json.plainText := by
  unfold valueText FieldValue.operand
  rw [h]
  cases json with
  | scalar s =>
    cases s with
    | null => exact absurd rfl hnull
    | _ => rfl
  | _ => rfl

theorem valueText_of_null (h : value.toJson .name = .ok Json.null) :
    t.valueText name value = .error (.missingTemplateValue t.source name) := by
  unfold valueText FieldValue.operand
  rw [h]
  rfl

theorem valueText_of_error {why : Unsupported} (h : value.toJson .name = .error why) :
    t.valueText name value = .error (.valueShape name (.notBindable why)) := by
  unfold valueText FieldValue.operand
  rw [h]
  rfl

/-! ## Placeholders -/

theorem toList_dropBlanks (s : String) :
    (Text.dropBlanks s).toList = s.toList.filter fun c => !Text.isBlank c := String.toList_ofList

/-- The text of a placeholder, given the text of its field's value. -/
theorem renderSegment_of_valueText {text : String}
    (h : t.valueText name (record.get name) = .ok text) :
    t.renderSegment record (.field name) =
      if (Text.dropBlanks text).toList.all Text.isAsciiWord = true then .ok (Text.dropBlanks text)
      else .error (.invalidTemplateValue t.source name) := by
  simp only [renderSegment, h, Bind.bind, Except.bind, pure, Except.pure]

/-- The text of a placeholder is the one that the value of its field fills it with. -/
theorem renderSegment_of_fills {text : List Char} (h : (record.get name).Fills text) :
    t.renderSegment record (.field name) = .ok (String.ofList text) := by
  obtain ⟨⟨json, hjson, hnull, htext⟩, hword⟩ := h
  have hstripped : Text.dropBlanks json.plainText = String.ofList text :=
    String.toList_inj.1 (by rw [toList_dropBlanks, htext, String.toList_ofList])
  have hall : (String.ofList text).toList.all Text.isAsciiWord = true := by
    rw [String.toList_ofList]
    exact List.all_eq_true.2 hword
  rw [renderSegment_of_valueText (valueText_of_json hjson hnull), hstripped, if_pos hall]

theorem renderSegment_of_refuses (h : t.Refuses name (record.get name) e) :
    t.renderSegment record (.field name) = .error e := by
  cases h with
  | shape h =>
    rw [renderSegment, valueText_of_error h]
    rfl
  | missing h =>
    rw [renderSegment, valueText_of_null h]
    rfl
  | @letter text c h hc hword =>
    obtain ⟨json, hjson, hnull, rfl⟩ := h
    have hall : ¬(Text.dropBlanks json.plainText).toList.all Text.isAsciiWord = true := by
      rw [toList_dropBlanks, List.all_eq_true]
      intro hall
      rw [hall c hc] at hword
      cases hword
    rw [renderSegment_of_valueText (valueText_of_json hjson hnull), if_neg hall]

/-- Every value fills a placeholder or is refused. -/
theorem fills_or_refuses (t : Template) (name : String) (value : FieldValue) :
    (∃ text, value.Fills text) ∨ ∃ e, t.Refuses name value e := by
  cases hjson : value.toJson .name with
  | error why => exact Or.inr ⟨_, .shape hjson⟩
  | ok json =>
    by_cases hnull : json = Json.null
    · exact Or.inr ⟨_, .missing (hnull ▸ hjson)⟩
    · have htext : value.HasText (json.plainText.toList.filter fun c => !Text.isBlank c) :=
        ⟨json, hjson, hnull, rfl⟩
      by_cases hword : ∀ c ∈ json.plainText.toList.filter fun c => !Text.isBlank c,
          Text.isAsciiWord c = true
      · exact Or.inl ⟨_, htext, hword⟩
      · push Not at hword
        obtain ⟨c, hc, hword⟩ := hword
        exact Or.inr ⟨_, .letter htext hc (Bool.eq_false_iff.2 hword)⟩

theorem exists_renderSegment_iff :
    (∃ text, t.renderSegment record (.field name) = .ok text) ↔
      ∃ text, (record.get name).Fills text := by
  constructor
  · rintro ⟨text, htext⟩
    refine (fills_or_refuses t name (record.get name)).resolve_right ?_
    rintro ⟨e, hrefuses⟩
    rw [renderSegment_of_refuses hrefuses] at htext
    cases htext
  · rintro ⟨text, hfills⟩
    exact ⟨_, renderSegment_of_fills hfills⟩

theorem renderSegment_eq_error :
    t.renderSegment record (.field name) = .error e ↔ t.Refuses name (record.get name) e := by
  refine ⟨fun herror => ?_, renderSegment_of_refuses⟩
  rcases fills_or_refuses t name (record.get name) with ⟨text, hfills⟩ | ⟨e', hrefuses⟩
  · rw [renderSegment_of_fills hfills] at herror
    cases herror
  · rw [renderSegment_of_refuses hrefuses] at herror
    cases herror
    exact hrefuses

/-! ## Templates -/

theorem mem_fieldNames : name ∈ t.fieldNames ↔ .field name ∈ t.segments := by
  unfold fieldNames
  rw [List.mem_filterMap]
  constructor
  · rintro ⟨segment, hsegment, hname⟩
    cases segment with
    | literal text => cases hname
    | field other =>
      cases hname
      exact hsegment
  · exact fun h => ⟨_, h, rfl⟩

/-- The pieces fail as their fields do: text is always rendered. -/
theorem mapM_renderSegment_eq_error {segments : List Segment} :
    segments.mapM (t.renderSegment record) = .error e ↔
      (segments.filterMap Segment.field?).mapM (fun name => t.renderSegment record (.field name)) =
        .error e := by
  induction segments with
  | nil => exact Iff.rfl
  | cons segment segments ih =>
    cases segment with
    | literal text =>
      rw [List.filterMap_cons_none rfl, ← ih, List.mapM_cons]
      exact bind_pure_eq_error
    | field name =>
      have hfields : (Segment.field name :: segments).filterMap Segment.field? =
          name :: segments.filterMap Segment.field? := List.filterMap_cons_some rfl
      rw [hfields, List.mapM_cons, List.mapM_cons]
      -- the two runs go on alike after the first field, unless both end with its error
      cases t.renderSegment record (.field name) with
      | error e' => exact Iff.rfl
      | ok text => exact (bind_pure_eq_error.trans ih).trans bind_pure_eq_error.symm

theorem render_eq_error :
    t.render record = .error e ↔
      ∃ before name after, t.fieldNames = before ++ name :: after ∧
        (∀ b ∈ before, ∃ text, (record.get b).Fills text) ∧ t.Refuses name (record.get name) e := by
  have hpieces : t.render record = .error e ↔
      t.segments.mapM (t.renderSegment record) = .error e := bind_pure_eq_error
  rw [hpieces, mapM_renderSegment_eq_error, mapM_eq_error]
  simp only [exists_renderSegment_iff, renderSegment_eq_error]
  rfl

/-- The text of a template whose fields have texts is filled with these. -/
theorem render_of_fills {texts : String → List Char}
    (h : ∀ name ∈ t.fieldNames, (record.get name).Fills (texts name)) :
    t.render record = .ok (String.ofList (t.segments.flatMap (Segment.fill texts))) := by
  have hpieces : t.segments.mapM (t.renderSegment record) =
      .ok (t.segments.map fun segment => String.ofList (segment.fill texts)) := by
    rw [mapM_eq_ok, List.forall₂_map_right_iff, List.forall₂_same]
    intro segment hsegment
    cases segment with
    | literal text => rfl
    | field name =>
      exact renderSegment_of_fills (h name (mem_fieldNames.2 hsegment))
  rw [render, hpieces]
  refine congrArg Except.ok (String.toList_inj.1 ?_)
  rw [String.toList_join, List.flatMap_map, String.toList_ofList]
  simp only [String.toList_ofList]

/-- Where a template is rendered, the value of each of its fields has a text. -/
theorem exists_texts_of_render {text : String} (h : t.render record = .ok text) :
    ∃ texts : String → List Char, ∀ name ∈ t.fieldNames, (record.get name).Fills (texts name) := by
  obtain ⟨parts, hparts, -⟩ := bind_eq_ok.1 h
  have hall (name : String) (hname : name ∈ t.fieldNames) :
      ∃ text, (record.get name).Fills text := by
    obtain ⟨part, -, hpart⟩ := exists_mem_of_mapM hparts (mem_fieldNames.1 hname)
    exact exists_renderSegment_iff.1 ⟨part, hpart⟩
  choose! texts htexts using hall
  exact ⟨texts, htexts⟩

theorem exists_render_iff :
    (∃ text, t.render record = .ok text) ↔
      ∀ name ∈ t.fieldNames, ∃ text, (record.get name).Fills text := by
  constructor
  · rintro ⟨text, htext⟩ name hname
    obtain ⟨texts, htexts⟩ := exists_texts_of_render htext
    exact ⟨_, htexts name hname⟩
  · intro hall
    choose! texts htexts using hall
    exact ⟨_, render_of_fills htexts⟩

/-- A template is rendered exactly where the value of each of its fields has a text of ASCII
    letters, digits and underscores. What is rendered is the source with these texts for its
    placeholders; else the error is that of the first field whose value is refused. -/
theorem render_fills {kind : TemplateKind} {source : String} (h : parse kind source = .ok t)
    (record : Record) :
    source.toList = t.segments.flatMap (written kind) ∧
    ((∃ text, t.render record = .ok text) ↔
      ∀ name ∈ t.fieldNames, ∃ text, (record.get name).Fills text) ∧
    (∀ text, t.render record = .ok text →
      ∃ texts : String → List Char,
        (∀ name ∈ t.fieldNames, (record.get name).Fills (texts name)) ∧
        text.toList = t.segments.flatMap (Segment.fill texts)) ∧
    ∀ e, t.render record = .error e ↔
      ∃ before name after, t.fieldNames = before ++ name :: after ∧
        (∀ b ∈ before, ∃ text, (record.get b).Fills text) ∧
        t.Refuses name (record.get name) e := by
  have hsource : source.toList = t.segments.flatMap (written kind) := by
    rw [segments_of_parse h, written_cut]
  refine ⟨hsource, exists_render_iff, fun text htext => ?_, fun e => render_eq_error⟩
  obtain ⟨texts, htexts⟩ := exists_texts_of_render htext
  refine ⟨texts, htexts, ?_⟩
  rw [ok_unique htext (render_of_fills htexts), String.toList_ofList]

/-- Tables by tenant and level. -/
def byTenant : Template :=
  ⟨"t_$\x7btenant\x7d_$\x7blevel\x7d",
    [.literal ['t', '_'], .field "tenant", .literal ['_'], .field "level"]⟩

/-- The values of a tenant and of a level. -/
def ofTenantLevel (tenant level : FieldValue) : Record :=
  ⟨"UserQuery", [("tenant", tenant), ("level", level)]⟩

theorem render_fills_byTenant :
    parse .table byTenant.source = .ok byTenant ∧
      byTenant.source.toList = byTenant.segments.flatMap (written .table) ∧
      ∃ texts : String → List Char,
        (∀ name ∈ ["tenant", "level"],
          ((ofTenantLevel (.scalar (.text " acme co ")) (.variant 1 "Vip")).get name).Fills
            (texts name)) ∧
        "t_acmeco_Vip".toList = byTenant.segments.flatMap (Segment.fill texts) := by
  have hparse : parse .table byTenant.source = .ok byTenant := by cbv
  obtain ⟨hsource, -, hfilled, -⟩ :=
    render_fills hparse (ofTenantLevel (.scalar (.text " acme co ")) (.variant 1 "Vip"))
  exact ⟨hparse, hsource, hfilled "t_acmeco_Vip" (by cbv)⟩

/-- Of two values that are refused the first one in the source counts. -/
example : byTenant.render (ofTenantLevel (.scalar (.text "a-b")) .absent) =
    .error (.invalidTemplateValue byTenant.source "tenant") := by
  cbv

end Template

end CriteriaSql
