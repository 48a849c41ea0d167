/-
  Templates: texts with placeholders for fields. The name of a table holds `${field}` and takes the
  field's value into the text; a join clause holds `#{field}` and binds it.
-/
import CriteriaSql.Fragment
import CriteriaSql.Text.Blank
import CriteriaSql.Text.Word
import CriteriaSql.Value.Record

namespace CriteriaSql

/-! ## Grammar -/

/-- What a template is for. -/
inductive TemplateKind
  | table
  | join
  deriving DecidableEq, Repr

/-- The character before the brace that opens a placeholder. -/
def TemplateKind.sigil : TemplateKind → Char
  | table => '$'
  | join => '#'

/-- The opening of a placeholder. -/
def TemplateKind.opener (kind : TemplateKind) : List Char := [kind.sigil, '\x7b']

/-- A piece of a template. -/
inductive Segment
  | literal (text : List Char)
  | field (name : String)
  deriving DecidableEq, Repr

/-- The field that a piece refers to. -/
def Segment.field? : Segment → Option String
  | field name => some name
  | literal _ => none

/-- A template in pieces. -/
structure Template where
  source : String
  segments : List Segment
  deriving DecidableEq, Repr

namespace Template

/-- Reads a placeholder at the start: its name, and what follows it. -/
def placeholder? (kind : TemplateKind) : List Char → Option (List Char × List Char)
  | c :: d :: rest =>
    if c = kind.sigil ∧ d = '\x7b' ∧ rest.takeWhile Text.isWord ≠ [] then
      match rest.dropWhile Text.isWord with
      | '\x7d' :: after => some (rest.takeWhile Text.isWord, after)
      | _ => none
    else none
  | _ => none

theorem length_dropWhile_le {α : Type} (p : α → Bool) (xs : List α) :
    (xs.dropWhile p).length ≤ xs.length :=
  (List.dropWhile_sublist p).length_le

theorem length_of_placeholder? {kind : TemplateKind} {cs name after : List Char}
    (h : placeholder? kind cs = some (name, after)) : after.length < cs.length := by
  unfold placeholder? at h
  split at h
  next c d rest =>
    split at h
    next =>
      split at h
      next tail heq =>
        simp only [Option.some.injEq, Prod.mk.injEq] at h
        obtain ⟨-, rfl⟩ := h
        have := length_dropWhile_le Text.isWord rest
        rw [heq] at this
        simp only [List.length_cons] at this ⊢
        omega
      next => simp at h
    next => simp at h
  next => simp at h

/-- A character in front of the pieces; it joins a literal that follows it. -/
def consLiteral (c : Char) : List Segment → List Segment
  | .literal text :: segments => .literal (c :: text) :: segments
  | segments => .literal [c] :: segments

/-- Cuts characters into fields and what stands between them. -/
def cut (kind : TemplateKind) (cs : List Char) : List Segment :=
  match _h : placeholder? kind cs with
  | some (name, after) => .field (String.ofList name) :: cut kind after
  | none =>
    match cs with
    | [] => []
    | c :: cs => consLiteral c (cut kind cs)
termination_by cs.length
decreasing_by
  · exact length_of_placeholder? _h
  · simp

/-- A piece as it is written in a template. -/
def written (kind : TemplateKind) : Segment → List Char
  | .literal text => text
  | .field name => kind.opener ++ name.toList ++ ['\x7d']

theorem eq_of_placeholder? {kind : TemplateKind} {cs name after : List Char}
    (h : placeholder? kind cs = some (name, after)) :
    cs = kind.opener ++ name ++ ['\x7d'] ++ after := by
  unfold placeholder? at h
  split at h
  next c d rest =>
    split at h
    next hopen =>
      obtain ⟨rfl, rfl, -⟩ := hopen
      split at h
      next tail heq =>
        simp only [Option.some.injEq, Prod.mk.injEq] at h
        obtain ⟨rfl, rfl⟩ := h
        have := List.takeWhile_append_dropWhile (p := Text.isWord) (l := rest)
        rw [heq] at this
        simp [TemplateKind.opener, this]
      next => simp at h
    next => simp at h
  next => simp at h

theorem written_consLiteral (kind : TemplateKind) (c : Char) (segments : List Segment) :
    (consLiteral c segments).flatMap (written kind) = c :: segments.flatMap (written kind) := by
  unfold consLiteral
  split <;> simp [written]

/-- The pieces written one after the other are the template again. -/
theorem written_cut (kind : TemplateKind) (cs : List Char) :
    (cut kind cs).flatMap (written kind) = cs := by
  fun_induction cut kind cs with
  | case1 cs name after h ih =>
    rw [List.flatMap_cons, ih, eq_of_placeholder? h]
    simp [written]
  | case2 h => rfl
  | case3 c cs h ih => rw [written_consLiteral, ih]

/-- Whether a piece is text in which a placeholder is opened. -/
def isUnterminated (kind : TemplateKind) : Segment → Bool
  | .literal text => Text.hasPart kind.opener text
  | .field _ => false

/-- Reads a template. A placeholder that is opened and not completed is an error. -/
def parse (kind : TemplateKind) (source : String) : Except Error Template :=
  let segments := cut kind source.toList
  if segments.any (isUnterminated kind) then
    .error (.invalidTemplate source (.unterminated (String.ofList kind.opener)))
  else .ok ⟨source, segments⟩

/-! ## Fields -/

/-- The fields that the template refers to, in order. -/
def fieldNames (t : Template) : List String := t.segments.filterMap Segment.field?

/-- Whether the template refers to any field. -/
def isDynamic (t : Template) : Bool := !t.fieldNames.isEmpty

/-- Whether the template refers to the field. -/
def references (t : Template) (field : String) : Bool := t.fieldNames.contains field

/-! ## Rendering -/

/-- The text of a value in the name of a table. A value that is null has none. -/
def valueText (t : Template) (name : String) (value : FieldValue) : Except Error String := do
  match ← value.operand name .name with
  | .scalar .null => .error (.missingTemplateValue t.source name)
  | .scalar (.text s) => .ok s
  | j => .ok j.compact

/-- The text of a piece: a literal as it is, a field's value without blanks. Only ASCII word
    characters may reach the text. -/
def renderSegment (t : Template) (record : Record) : Segment → Except Error String
  | .literal text => .ok (String.ofList text)
  | .field name => do
    let text := Text.dropBlanks (← t.valueText name (record.get name))
    if text.toList.all Text.isAsciiWord then pure text
    else .error (.invalidTemplateValue t.source name)

/-- The text of a template with the values of a record in it. -/
def render (t : Template) (record : Record) : Except Error String := do
  let parts ← t.segments.mapM (t.renderSegment record)
  pure (String.join parts)

/-! ## Binding -/

/-- A piece with its field as an argument. -/
def bindSegment (t : Template) (record : Record) : Segment → Except Error Fragment
  | .literal text => .ok (Fragment.ofText (String.ofList text))
  | .field name =>
    let value := record.get name
    if value.isAbsent then .error (.missingTemplateValue t.source name)
    else (value.bind name .ordinal).map Fragment.argument

/-- A template with the values of a record as arguments. -/
def bind (t : Template) (record : Record) : Except Error Fragment := do
  let parts ← t.segments.mapM (t.bindSegment record)
  pure (Fragment.concat parts)

/-- The arguments bound up to the first field that cannot be bound. -/
def boundArgs (t : Template) (record : Record) : List Scalar :=
  go t.segments
where
  go : List Segment → List Scalar
    | [] => []
    | segment :: segments =>
      match t.bindSegment record segment with
      | .ok f => f.args ++ go segments
      | .error _ => []

end Template

end CriteriaSql
