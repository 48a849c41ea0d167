/-
  How many placeholders comparisons and nested queries have. A comparison has those of its column
  and one for each argument. The check of nested queries reads the join clauses of the levels and
  no other text; what the levels select, where from and what they compare goes into the condition
  as it is declared. So a condition has one placeholder for each argument and those of the texts
  that nobody has read: it is balanced exactly where these are plain (`balanced_nested_iff`).
-/
import CriteriaSql.Proofs.Comparison
import CriteriaSql.Proofs.Forms
import CriteriaSql.Proofs.Pieces
import CriteriaSql.Proofs.Placeholder.Declarations
import Mathlib

namespace CriteriaSql

open Text (Plain)

/-! ## Counting -/

/-- The placeholders of some texts. -/
def Text.marksIn (texts : List String) : Nat := (texts.map (countChar '?')).sum

namespace Text

@[simp] theorem marksIn_nil : marksIn [] = 0 := rfl

@[simp] theorem marksIn_cons (text : String) (texts : List String) :
    marksIn (text :: texts) = countChar '?' text + marksIn texts := by
  simp [marksIn]

@[simp] theorem marksIn_append (before behind : List String) :
    marksIn (before ++ behind) = marksIn before + marksIn behind := by
  simp [marksIn]

theorem marksIn_eq_zero_iff {texts : List String} :
    marksIn texts = 0 ↔ ∀ text ∈ texts, Plain text := by
  induction texts with
  | nil => simp
  | cons text texts ih =>
    rw [marksIn_cons, Nat.add_eq_zero_iff, ih, List.forall_mem_cons, plain_iff_countChar]

end Text

theorem Fragment.placeholders_ofText (text : String) :
    (ofText text).placeholders = Text.countChar '?' text := rfl

/-- A query that something is tested against adds its own placeholders. -/
theorem Fragment.placeholders_within (f g : Fragment) :
    (f ++ " IN (" ++ g ++ ")" : Fragment).placeholders = f.placeholders + g.placeholders := by
  have hin : Text.countChar '?' " IN (" = 0 := by decide
  have hclose : Text.countChar '?' ")" = 0 := by decide
  simp only [placeholders_append, placeholders_ofText, hin, hclose]
  omega

/-- A text behind WHERE adds its own placeholders. -/
theorem Fragment.placeholders_where (f g : Fragment) :
    (f ++ " WHERE " ++ g : Fragment).placeholders = f.placeholders + g.placeholders := by
  have hwhere : Text.countChar '?' " WHERE " = 0 := by decide
  simp only [placeholders_append, placeholders_ofText, hwhere]
  omega

/-! ## Comparisons -/

/-- A comparison has the placeholders of its column and one for each argument. -/
theorem Comparison.placeholders_sql (c : Comparison) :
    c.sql.placeholders = Text.countChar '?' c.column + c.sql.args.length := by
  obtain ⟨⟨column, op⟩, operand⟩ := c
  have hop : Text.countChar '?' op.words.sql = 0 := by
    rw [op.sql_words]
    exact Text.plain_iff_countChar.1 op.plain_sql
  have hbehind (args : Fragment) (hargs : args.Balanced) :
      (Fragment.ofText (column ++ op.words.sql) ++ args).placeholders =
        Text.countChar '?' column + args.args.length := by
    rw [Fragment.placeholders_append, Fragment.placeholders_ofText, Text.countChar_append, hop,
      hargs, Nat.add_zero]
  cases operand with
  | nothing =>
    have hhead : Text.countChar '?' (column ++ op.words.sql) = Text.countChar '?' column := by
      rw [Text.countChar_append, hop, Nat.add_zero]
    exact hhead
  | value j => exact hbehind _ (Fragment.balanced_argument _)
  | items js => exact hbehind _ (Fragment.balanced_argumentList _)
  | part text => exact hbehind _ (Fragment.balanced_argument _)

theorem Operand.placeholders_compare {x : Operand} {column : String} {op : Operator} {f : Fragment}
    (h : x.compare column op = .ok (some f)) :
    f.placeholders = Text.countChar '?' column + f.args.length := by
  rw [x.compare_eq_comparison ⟨column, op⟩] at h
  obtain ⟨found, hfound, hsome⟩ := map_eq_ok.1 h
  obtain ⟨c, rfl, rfl⟩ := Option.map_eq_some_iff.1 hsome
  obtain ⟨o, -, ho⟩ := map_eq_ok.1 hfound
  obtain ⟨o, rfl, rfl⟩ := Option.map_eq_some_iff.1 ho
  exact Comparison.placeholders_sql _

/-! ## Levels -/

/-- What a level and the levels within it put into a condition, less their join clauses: what is
    selected, where from, and the column compared with what the next level selects. -/
def Level.unread : Level → List Level → List String
  | level, [] => [level.select, level.source]
  | level, next :: levels =>
    [level.select, level.source, level.where?.getD next.select] ++ unread next levels

/-- The texts that nested queries put into the condition of a field and that their check does not
    read. A condition that is appended compares the column of the innermost level, or that of the
    field. -/
def NestedQueries.unread (queries : NestedQueries) (column : String) : List String :=
  match queries.levels with
  | [] => []
  | level :: levels =>
    queries.column :: level.unread levels ++
      if queries.appendWhere then [(levels.getLastD level).where?.getD column] else []

theorem Level.plain_unread {level : Level} {levels : List Level}
    (h : ∀ l ∈ level :: levels, l.Plain) : ∀ text ∈ level.unread levels, Text.Plain text := by
  have hlevel : level.Plain := h level List.mem_cons_self
  induction levels generalizing level with
  | nil => simp [unread, hlevel.select, hlevel.source]
  | cons next levels ih =>
    have hnext : next.Plain := h next (by simp)
    have hwhere : Text.Plain (level.where?.getD next.select) := by
      cases hw : level.where? with
      | none => exact hnext.select
      | some column => exact hlevel.compared column hw
    have hrest : ∀ text ∈ next.unread levels, Text.Plain text :=
      ih (fun l hl => h l (List.mem_cons_of_mem _ hl)) hnext
    simpa [unread, hlevel.select, hlevel.source, hwhere] using hrest

/-- What the check of nested queries leaves unread is plain where the declaration is. -/
theorem NestedQueries.plain_unread {queries : NestedQueries} {column : String}
    (hc : Text.Plain column) (h : queries.Plain) :
    ∀ text ∈ queries.unread column, Text.Plain text := by
  unfold NestedQueries.unread
  split
  · simp
  next level levels hlevels =>
    have hall : ∀ l ∈ level :: levels, l.Plain := hlevels ▸ h.levels
    -- the innermost level is compared by a column of its own, or by that of the field
    have hlast : Text.Plain ((levels.getLastD level).where?.getD column) := by
      cases hwhere : (levels.getLastD level).where? with
      | none => exact hc
      | some w => exact (hall _ List.getLastD_mem_cons).compared w hwhere
    intro text htext
    rcases List.mem_append.1 htext with htext | htext
    · rcases List.mem_cons.1 htext with rfl | htext
      · exact h.column
      · exact Level.plain_unread hall text htext
    · split at htext
      · rw [List.mem_singleton.1 htext]
        exact hlast
      · cases htext

namespace Condition

theorem countChar_levelHead {level : Level} (he : ∀ extra ∈ level.extra?, Plain extra) :
    Text.countChar '?' (levelHead level) =
      Text.countChar '?' level.select + Text.countChar '?' level.source := by
  have hselect : Text.countChar '?' "SELECT " = 0 := by decide
  have hfrom : Text.countChar '?' " FROM " = 0 := by decide
  have hblank : Text.countChar '?' " " = 0 := by decide
  unfold levelHead
  dsimp only
  split
  next extra heq =>
    have hextra : Text.countChar '?' extra = 0 := Text.plain_iff_countChar.1 (he extra heq)
    simp only [Text.countChar_append, hselect, hfrom, hblank, hextra]
    omega
  next =>
    simp only [Text.countChar_append, hselect, hfrom]
    omega

/-- Levels whose join clauses are plain have the placeholders of their other texts and those behind
    the innermost level. -/
theorem placeholders_nestedQuery (tail : Fragment) {level : Level} {levels : List Level}
    (he : ∀ l ∈ level :: levels, ∀ extra ∈ l.extra?, Plain extra) :
    (nestedQuery tail level levels).placeholders =
      Text.marksIn (level.unread levels) + tail.placeholders := by
  have hhead := countChar_levelHead (he level List.mem_cons_self)
  induction levels generalizing level with
  | nil =>
    rw [nestedQuery, Fragment.placeholders_append, Fragment.placeholders_ofText, hhead]
    simp only [Level.unread, Text.marksIn_cons, Text.marksIn_nil]
    omega
  | cons next levels ih =>
    have hnext := ih (fun l hl => he l (List.mem_cons_of_mem _ hl))
      (countChar_levelHead (he next (by simp)))
    rw [nestedQuery, Fragment.placeholders_within, Fragment.placeholders_where, hnext]
    simp only [Level.unread, Fragment.placeholders_ofText, hhead, Text.marksIn_append,
      Text.marksIn_cons, Text.marksIn_nil]
    omega

/-- Nested queries whose join clauses are plain have one placeholder for each argument, and those of
    their other texts. -/
theorem placeholders_nested {x : Operand} {column : String} {queries : NestedQueries}
    {op : Operator} {f : Fragment}
    (he : ∀ level ∈ queries.levels, ∀ extra ∈ level.extra?, Plain extra)
    (h : nested x column queries op = .ok (some f)) :
    f.placeholders = f.args.length + Text.marksIn (queries.unread column) := by
  obtain ⟨level, levels, tail, hlevels, rfl, htail⟩ := nested_eq_some h
  rw [hlevels] at he
  -- the texts of the tail: the compared column, if a condition is appended
  have hcount : tail.placeholders + Text.countChar '?' queries.column +
      Text.marksIn (level.unread levels) =
      tail.args.length + Text.marksIn (queries.unread column) := by
    unfold NestedQueries.unread
    rw [hlevels]
    rcases htail with ⟨happend, g, rfl, hcompare⟩ | ⟨hbare, rfl⟩
    · have hwhere : Text.countChar '?' " WHERE " = 0 := by decide
      have hg := Operand.placeholders_compare hcompare
      simp only [happend, if_true, Fragment.placeholders_append, Fragment.placeholders_ofText,
        Fragment.args_append, Fragment.args_ofText, List.nil_append, List.cons_append,
        Text.marksIn_cons, Text.marksIn_append, Text.marksIn_nil, hwhere, hg]
      omega
    · have hempty : Fragment.empty.placeholders = 0 := rfl
      have hnone : Fragment.empty.args = [] := rfl
      simp only [hbare, Bool.false_eq_true, if_false, List.append_nil, Text.marksIn_cons, hempty,
        hnone, List.length_nil]
      omega
  have hargs : (queries.column ++ " IN (" ++ nestedQuery tail level levels ++ ")" :
      Fragment).args = tail.args := by simp
  rw [Fragment.placeholders_within, Fragment.placeholders_ofText, placeholders_nestedQuery tail he,
    hargs]
  omega

/-- The condition by nested queries that were checked has one placeholder for each argument, and
    those of the texts that the check does not read. It is balanced exactly where all of these are
    plain. -/
theorem balanced_nested_iff {x : Operand} {column : String} {queries : NestedQueries}
    {op : Operator} {f : Fragment} (hvalid : queries.validate x.field = .ok ())
    (h : nested x column queries op = .ok (some f)) :
    f.placeholders = f.args.length + Text.marksIn (queries.unread column) ∧
      (f.Balanced ↔ ∀ text ∈ queries.unread column, Plain text) := by
  have hcount := placeholders_nested (NestedQueries.plain_of_validate hvalid) h
  refine ⟨hcount, ?_⟩
  rw [Fragment.Balanced, hcount, ← Text.marksIn_eq_zero_iff, Nat.add_eq_left]

/-- The users with a role of a name: the keys of the roles within those of their users. -/
def usersByRoleName : NestedQueries :=
  ⟨"id", [⟨"userId", "grants", some "roleId", none⟩, ⟨"id", "role", some "name", none⟩], true⟩

/-- A role's name as a field. -/
def roleName : Operand := ⟨"roleName", .ordinal, .scalar (.text "admin")⟩

set_option maxRecDepth 20000 in
theorem balanced_usersByRoleName :
    ∃ f, usersByRoleName.validate roleName.field = .ok () ∧
      nested roleName "role_name" usersByRoleName .eq = .ok (some f) ∧
      f.text = "id IN (SELECT userId FROM grants WHERE roleId IN " ++
        "(SELECT id FROM role WHERE name = ?))" ∧
      f.placeholders = 1 ∧ f.args = [.text "admin"] ∧ f.Balanced := by
  have hvalid : usersByRoleName.validate roleName.field = .ok () := by cbv
  have hnested : nested roleName "role_name" usersByRoleName .eq =
      .ok (some ⟨"id IN (SELECT userId FROM grants WHERE roleId IN " ++
        "(SELECT id FROM role WHERE name = ?))", [.text "admin"]⟩) := by cbv
  have hmarks : Text.marksIn (usersByRoleName.unread "role_name") = 0 := by cbv
  obtain ⟨hcount, hbalanced⟩ := balanced_nested_iff hvalid hnested
  rw [hmarks] at hcount
  exact ⟨_, hvalid, hnested, rfl, hcount, rfl, hbalanced.2 (Text.marksIn_eq_zero_iff.1 hmarks)⟩

/-- The users with a role of a name, over the given source. -/
def usersByRole (source : String) : NestedQueries :=
  ⟨"id", [⟨"userId", source, some "r.name", none⟩], true⟩

/-- A join that keeps the roles that are valid, with a placeholder of its own. -/
def validRoles : String := "t_user_and_role ur JOIN t_role r ON r.valid = ?"

/-- The query for the users with a valid role of a name. -/
def ofValidRole : Query :=
  ⟨⟨"UserQuery", some ["roleName"], "t_user", none, none,
      [("roleName", .nested (usersByRole validRoles))]⟩,
    .record [("roleName", .text "admin")], .all⟩

set_option maxRecDepth 20000 in
/-- The check accepts a placeholder in what is selected from, and nothing is bound for it. -/
theorem unbalanced_validRoles :
    ∃ f, (usersByRole validRoles).validate roleName.field = .ok () ∧
      nested roleName "roleName" (usersByRole validRoles) .eq = .ok (some f) ∧
      f.placeholders = 2 ∧ f.args.length = 1 ∧
      ofValidRole.select .default [] = .ok ("SELECT * FROM t_user WHERE " ++ f) := by
  refine ⟨⟨"id IN (SELECT userId FROM t_user_and_role ur JOIN t_role r ON r.valid = ? " ++
    "WHERE r.name = ?)", [.text "admin"]⟩, ?_, ?_, ?_, rfl, ?_⟩
  · cbv
  · cbv
  · decide +kernel
  · cbv

end Condition

end CriteriaSql
