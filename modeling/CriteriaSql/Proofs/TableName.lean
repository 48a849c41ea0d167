/-
  The name of the table of a statement. Each placeholder in it is filled with the text of its
  field's value, blanks left out. A value without a form is refused, but one whose text consists of
  blanks only is not: its placeholder is filled with nothing, and it is the only kind of value of
  which this is so (`place_empty_iff`).
-/
import CriteriaSql.Proofs.Request
import CriteriaSql.Proofs.Template.Rendering

namespace CriteriaSql

/-! ## Texts that are not blank -/

section NotBlank

variable {s t : String}

theorem Text.not_isBlankText_iff : ¬isBlankText s = true ↔ ∃ c ∈ s.toList, isBlank c = false := by
  simp [isBlankText]

theorem Text.not_isBlankText_append (h : ¬isBlankText s = true ∨ ¬isBlankText t = true) :
    ¬isBlankText (s ++ t) = true := by
  simp only [not_isBlankText_iff] at h ⊢
  rcases h with ⟨c, hc, hblank⟩ | ⟨c, hc, hblank⟩
  · exact ⟨c, by simp [hc], hblank⟩
  · exact ⟨c, by simp [hc], hblank⟩

end NotBlank

theorem Decimal.not_isBlankText (d : Decimal) : ¬Text.isBlankText d.text = true := by
  have hpoint (before after : List Char) :
      ¬Text.isBlankText (String.ofList (before ++ '.' :: after)) = true :=
    Text.not_isBlankText_iff.2 ⟨'.', by simp, by decide⟩
  unfold text
  extract_lets all kept exponent point fractional mark
  split
  · exact hpoint _ _
  split
  · exact hpoint _ _
  split
  · exact hpoint ['0'] _
  · -- the exponent's mark
    have hmark : ¬Text.isBlankText mark = true := by
      dsimp only [mark]
      split <;> decide
    exact Text.not_isBlankText_append (Or.inl (Text.not_isBlankText_append (Or.inr hmark)))

/-- The text of a double without its sign. -/
def Double.sizeText (d : Double) : String :=
  if d.magnitude.1 = 0 then "0.0" else (Decimal.shortest d.magnitude.1 d.magnitude.2).text

theorem Double.text_eq (d : Double) :
    d.text = if d.isNegative then "-" ++ d.sizeText else d.sizeText := rfl

theorem Double.not_isBlankText (d : Double) : ¬Text.isBlankText d.text = true := by
  have hsize : ¬Text.isBlankText d.sizeText = true := by
    unfold sizeText
    split
    · decide
    · exact Decimal.not_isBlankText _
  rw [text_eq]
  split
  · exact Text.not_isBlankText_append (Or.inr hsize)
  · exact hsize

theorem Text.isBlank_of_isDigit {c : Char} (h : c.isDigit = true) : isBlank c = false := by
  have hrange : 48 ≤ c.toNat ∧ c.toNat ≤ 57 := Char.isDigit_iff_toNat.1 h
  rw [← Bool.not_eq_true]
  simp only [isBlank, Bool.or_eq_true, Bool.and_eq_true, decide_eq_true_eq, beq_iff_eq]
  omega

theorem Text.not_isBlankText_toString (n : Int) : ¬isBlankText (toString n) = true := by
  have hdigits (m : Nat) : ¬isBlankText m.repr = true := by
    obtain ⟨c, cs, hcs⟩ := List.exists_cons_of_ne_nil (Nat.toDigits_ne_nil (n := m) (b := 10))
    have hdigit : c.isDigit = true :=
      Nat.isDigit_of_mem_toDigits (by decide) (by decide) (hcs ▸ List.mem_cons_self)
    rw [not_isBlankText_iff, Nat.toList_repr, hcs]
    exact ⟨c, List.mem_cons_self, isBlank_of_isDigit hdigit⟩
  rw [Int.toString_eq_repr, Int.repr_eq_if]
  split
  · exact hdigits _
  · exact not_isBlankText_append (Or.inr (hdigits _))

/-- The compact form of a value other than a string shows. -/
theorem Json.not_isBlankText_compact {json : Json} (h : ∀ s, json ≠ .text s) :
    ¬Text.isBlankText json.compact = true := by
  cases json with
  | scalar s =>
    cases s with
    | null => decide
    | bool b => cases b <;> decide
    | int n => exact Text.not_isBlankText_toString n
    | double d => exact Double.not_isBlankText d
    | text s => exact absurd rfl (h s)
  | array items =>
    have hbracket : ¬Text.isBlankText "[" = true := by decide
    exact Text.not_isBlankText_append (Or.inl (Text.not_isBlankText_append (Or.inl hbracket)))
  | object fields =>
    have hbrace : ¬Text.isBlankText "\x7b" = true := by decide
    exact Text.not_isBlankText_append (Or.inl (Text.not_isBlankText_append (Or.inl hbrace)))

theorem Json.isBlankText_plainText_iff {json : Json} :
    Text.isBlankText json.plainText = true ↔ ∃ s, json = .text s ∧ Text.isBlankText s = true := by
  by_cases htext : ∃ s, json = .text s
  · obtain ⟨s, rfl⟩ := htext
    constructor
    · exact fun hblank => ⟨s, rfl, hblank⟩
    · rintro ⟨s', heq, hblank⟩
      cases heq
      exact hblank
  · have hplain : json.plainText = json.compact := by
      unfold plainText
      split
      next s => exact absurd ⟨s, rfl⟩ htext
      next => rfl
    have hother : ∀ s, json ≠ .text s := fun s heq => htext ⟨s, heq⟩
    rw [hplain]
    constructor
    · exact fun hblank => absurd hblank (Json.not_isBlankText_compact hother)
    · rintro ⟨s, heq, -⟩
      exact absurd heq (hother s)

/-! ## Blank values -/

namespace FieldValue

/-- A text or the name of a variant that holds nothing but blanks. -/
def isBlank : FieldValue → Bool
  | scalar (.text s) => Text.isBlankText s
  | variant _ name => Text.isBlankText name
  | _ => false

variable {value : FieldValue}

theorem toJson_eq_text {s : String} :
    value.toJson .name = .ok (.text s) ↔
      value = .scalar (.text s) ∨ ∃ index, value = .variant index s := by
  cases value with
  | absent => simp [toJson, Json.null, Json.text]
  | flag b => simp [toJson, Json.text]
  | scalar s' => simp [toJson, Json.text]
  | variant index name => simp [toJson, Json.text]
  | list items => simp [toJson, Json.text]
  | record fields => simp [toJson, Json.text]
  | unsupported why => simp [toJson]

theorem isBlank_iff :
    value.isBlank = true ↔
      ∃ s, value.toJson .name = .ok (.text s) ∧ Text.isBlankText s = true := by
  simp only [toJson_eq_text]
  constructor
  · intro h
    unfold isBlank at h
    split at h
    next s => exact ⟨s, Or.inl rfl, h⟩
    next index name => exact ⟨name, Or.inr ⟨index, rfl⟩, h⟩
    next => cases h
  · rintro ⟨s, rfl | ⟨index, rfl⟩, hs⟩
    · exact hs
    · exact hs

/-- A blank value, and no other one, fills a placeholder with nothing. -/
theorem fills_nil_iff : value.Fills [] ↔ value.isBlank = true := by
  have hempty (s : String) :
      s.toList.filter (fun c => !Text.isBlank c) = [] ↔ Text.isBlankText s = true := by
    simp [Text.isBlankText]
  rw [isBlank_iff]
  constructor
  · rintro ⟨⟨json, hjson, -, htext⟩, -⟩
    obtain ⟨s, rfl, hs⟩ := Json.isBlankText_plainText_iff.1 ((hempty _).1 htext)
    exact ⟨s, hjson, hs⟩
  · rintro ⟨s, hjson, hs⟩
    have hnull : Json.text s ≠ Json.null := by simp [Json.text, Json.null]
    exact ⟨⟨.text s, hjson, hnull, (hempty s).2 hs⟩, fun c hc => absurd hc List.not_mem_nil⟩

/-- A value fills a placeholder with one text only. -/
theorem Fills.unique {text text' : List Char} (h : value.Fills text) (h' : value.Fills text') :
    text = text' := by
  obtain ⟨⟨json, hjson, -, rfl⟩, -⟩ := h
  obtain ⟨⟨json', hjson', -, rfl⟩, -⟩ := h'
  rw [ok_unique hjson hjson']

end FieldValue

/-! ## Tables of statements -/

/-- What the name of a table is made of: a template, and the record whose values fill it. -/
structure TableSource where
  template : Template
  record : Record

/-- The name of the table can be rendered. -/
def TableSource.Renders (source : TableSource) : Prop :=
  ∃ table, source.template.render source.record = .ok table

variable {s : Settings} {r : Request} {f : Statement}

/-- The values of a query fill the template of its type. -/
def Query.tableSource (q : Query) (s : Settings) : Except Error TableSource := do
  let schema ← q.schema s
  let record ← q.record
  pure ⟨schema.table, record⟩

/-- The values of a record fill the template of an entity type. -/
def RecordType.tableSource (type : RecordType) (s : Settings) (values : Except Error Record) :
    Except Error TableSource := do
  let schema ← type.asEntity s
  let record ← values
  pure ⟨schema.table, record⟩

theorem Query.exists_tableSource {q : Query} {schema : CriteriaSchema} {joins : List Template}
    {taken : Option Template} {rows : Rows} (hschema : q.schema s = .ok schema)
    (hrows : q.rows s schema joins taken = .ok rows) :
    ∃ source, q.tableSource s = .ok source ∧ source.Renders := by
  obtain ⟨record, hrecord, table, htable, -⟩ := rows_eq_ok.1 hrows
  refine ⟨⟨schema.table, record⟩, ?_, table, htable⟩
  simp only [tableSource, bind_eq_ok, pure_eq_ok]
  exact ⟨schema, hschema, record, hrecord, rfl⟩

theorem RecordType.exists_tableSource {type : RecordType} {values : Except Error Record}
    {schema : EntitySchema} {record : Record} {table : String}
    (hschema : type.asEntity s = .ok schema) (hrecord : values = .ok record)
    (htable : schema.table.render record = .ok table) :
    ∃ source, type.tableSource s values = .ok source ∧ source.Renders := by
  refine ⟨⟨schema.table, record⟩, ?_, table, htable⟩
  simp only [tableSource, bind_eq_ok, pure_eq_ok]
  exact ⟨schema, hschema, record, hrecord, rfl⟩

namespace Request

/-- What the name of the table of a request is made of. An INSERT of several entities takes the
    values of the first one, and nothing fills the template of an owner. -/
def tableSource (s : Settings) : Request → Except Error (Option TableSource)
  | select q _ | selectId q | selectJoined q _ _ | count q | delete q =>
    (q.tableSource s).map some
  | create e | update e | patchById e | patchByQuery e _ => (e.type.tableSource s e.record).map some
  | createBatch _ [] _ => .ok none
  | createBatch type (first :: _) _ =>
    (type.tableSource s (Record.read type.name first)).map some
  | deleteById type id | selectById type id _ => (type.tableSource s id.record).map some
  | related owner _ _ _ | relatedWhere owner _ _ _ _ => (owner.tableSource s (.ok .empty)).map some

/-- A request that has a statement has a table whose name is rendered. -/
theorem exists_tableSource (h : r.statement s = .ok (some f)) :
    ∃ source, r.tableSource s = .ok (some source) ∧ source.Renders := by
  have hsome {x : Except Error TableSource} (hx : ∃ source, x = .ok source ∧ source.Renders) :
      ∃ source, x.map some = .ok (some source) ∧ source.Renders := by
    obtain ⟨source, rfl, hrenders⟩ := hx
    exact ⟨source, rfl, hrenders⟩
  have hrelated {owner joined : RecordType} {field : String} {ids : List Scalar}
      {filter : Option Related.Filter}
      (hstatement : Related.statement s owner joined field ids filter = .ok (some f)) :
      ∃ source, owner.tableSource s (.ok .empty) = .ok source ∧ source.Renders := by
    rcases Related.statement_eq_ok.1 hstatement with ⟨-, hnone⟩ | ⟨-, clause, hclause, -⟩
    · cases hnone
    · obtain ⟨schema, hschema, -, -, -, -, table, htable, -⟩ := Related.ownerClause_eq_ok.1 hclause
      exact RecordType.exists_tableSource hschema rfl htable
  cases r with
  | select q columns | selectId q =>
    obtain ⟨f, hf, -⟩ := map_eq_ok.1 h
    obtain ⟨schema, hschema, rows, hrows, -⟩ := Query.selectOver_eq_ok.1 hf
    exact hsome (Query.exists_tableSource hschema hrows)
  | selectJoined q join columns =>
    obtain ⟨f, hf, -⟩ := map_eq_ok.1 h
    obtain ⟨t, -, hover⟩ := Query.selectJoined_eq_ok.1 hf
    obtain ⟨schema, hschema, rows, hrows, -⟩ := Query.selectOver_eq_ok.1 hover
    exact hsome (Query.exists_tableSource hschema hrows)
  | count q =>
    obtain ⟨f, hf, -⟩ := map_eq_ok.1 h
    obtain ⟨schema, hschema, rows, hrows, -⟩ := Query.count_eq_ok.1 hf
    exact hsome (Query.exists_tableSource hschema hrows)
  | delete q =>
    obtain ⟨f, hf, -⟩ := map_eq_ok.1 h
    obtain ⟨schema, hschema, rows, hrows, -⟩ := Query.delete_eq_ok.1 hf
    exact hsome (Query.exists_tableSource hschema hrows)
  | create e =>
    obtain ⟨f, hf, -⟩ := map_eq_ok.1 h
    obtain ⟨schema, hschema, record, hrecord, -, -, table, htable, -⟩ := Entity.create_eq_ok.1 hf
    exact hsome (RecordType.exists_tableSource hschema hrecord htable)
  | createBatch type values updateColumns =>
    cases values with
    | nil => cases h
    | cons first rest =>
      obtain ⟨schema, hschema, record, hrecord, table, htable, -⟩ :=
        Entity.createBatch_cons_eq_ok.1 h
      exact hsome (RecordType.exists_tableSource hschema hrecord htable)
  | update e | patchById e =>
    obtain ⟨f, hf, -⟩ := map_eq_ok.1 h
    obtain ⟨schema, hschema, record, hrecord, -, -, table, htable, -⟩ :=
      Entity.updateById_eq_ok.1 hf
    exact hsome (RecordType.exists_tableSource hschema hrecord htable)
  | patchByQuery e q =>
    obtain ⟨f, hf, -⟩ := map_eq_ok.1 h
    obtain ⟨schema, hschema, record, hrecord, -, -, table, htable, -⟩ :=
      Entity.patchByQuery_eq_ok.1 hf
    exact hsome (RecordType.exists_tableSource hschema hrecord htable)
  | deleteById type id =>
    obtain ⟨f, hf, -⟩ := map_eq_ok.1 h
    obtain ⟨schema, hschema, record, hrecord, table, htable, -⟩ := RecordType.deleteById_eq_ok.1 hf
    exact hsome (RecordType.exists_tableSource hschema hrecord htable)
  | selectById type id columns =>
    obtain ⟨f, hf, -⟩ := map_eq_ok.1 h
    obtain ⟨schema, hschema, record, hrecord, table, htable, -⟩ := RecordType.selectById_eq_ok.1 hf
    exact hsome (RecordType.exists_tableSource hschema hrecord htable)
  | related owner joined field ids => exact hsome (hrelated h)
  | relatedWhere owner joined q field ids =>
    obtain ⟨schema, -, record, -, hstatement⟩ := RecordType.relatedWhere_eq_ok.1 h
    exact hsome (hrelated hstatement)

/-- In the name of the table of every statement, a placeholder is filled with nothing if and only if
    the value of its field is blank. -/
theorem place_empty_iff (h : r.statement s = .ok (some f)) :
    ∃ source table, r.tableSource s = .ok (some source) ∧
      source.template.render source.record = .ok table ∧
      ∃ texts : String → List Char,
        table.toList = source.template.segments.flatMap (Segment.fill texts) ∧
        ∀ name ∈ source.template.fieldNames,
          (source.record.get name).Fills (texts name) ∧
            (texts name = [] ↔ (source.record.get name).isBlank = true) := by
  obtain ⟨source, hsource, table, htable⟩ := exists_tableSource h
  obtain ⟨texts, htexts⟩ := Template.exists_texts_of_render htable
  refine ⟨source, table, hsource, htable, texts, ?_, fun name hname => ⟨htexts name hname, ?_⟩⟩
  · rw [ok_unique htable (Template.render_of_fills htexts), String.toList_ofList]
  · rw [← FieldValue.fills_nil_iff]
    constructor
    · intro hempty
      exact hempty ▸ htexts name hname
    · exact (htexts name hname).unique

/-- A query for the users of a tenant, each tenant with a table of its own. -/
def ofTenant (tenant : Datum) : Request :=
  .select ⟨⟨"UserQuery", some ["tenant"], "user$\x7btenant\x7d", none, none, []⟩,
    .record [("tenant", tenant)], .all⟩ []

theorem place_empty_ofTenant :
    (ofTenant (.text " acme co")).statement .default =
        .ok (some ⟨"SELECT * FROM useracmeco", []⟩) ∧
      ∃ source table, (ofTenant (.text " acme co")).tableSource .default = .ok (some source) ∧
        source.template.render source.record = .ok table ∧
        ∃ texts : String → List Char,
          table.toList = source.template.segments.flatMap (Segment.fill texts) ∧
          ∀ name ∈ source.template.fieldNames,
            (source.record.get name).Fills (texts name) ∧
              (texts name = [] ↔ (source.record.get name).isBlank = true) := by
  have hstatement : (ofTenant (.text " acme co")).statement .default =
      .ok (some ⟨"SELECT * FROM useracmeco", []⟩) := by cbv
  exact ⟨hstatement, place_empty_iff hstatement⟩

/-- A tenant without a value is refused, but all blank tenants have one table: the placeholder is
    filled with nothing. -/
theorem blank_tenants_share_table :
    (ofTenant .missing).statement .default =
        .error (.missingTemplateValue "user$\x7btenant\x7d" "tenant") ∧
      (ofTenant (.text "")).statement .default = .ok (some ⟨"SELECT * FROM user", []⟩) ∧
      (ofTenant (.text " ")).statement .default = .ok (some ⟨"SELECT * FROM user", []⟩) ∧
      (ofTenant (.text " ")).tableSource .default =
        .ok (some ⟨⟨"user$\x7btenant\x7d", [.literal ['u', 's', 'e', 'r'], .field "tenant"]⟩,
          ⟨"UserQuery", [("tenant", .scalar (.text " "))]⟩⟩) ∧
      (FieldValue.scalar (.text " ")).Fills [] :=
  ⟨by cbv, by cbv, by cbv, by cbv, FieldValue.fills_nil_iff.2 (by decide)⟩

end Request

end CriteriaSql
