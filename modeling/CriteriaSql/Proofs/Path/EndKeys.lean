/-
  The keys at the ends of a path filter. The outermost query of a path filter selects the key of the
  domain at the one end of its path, and the innermost condition compares the key of the domain at
  the other end. A field that is named for the key of the first domain compares that key. One that
  is named for the key of the last domain compares it unless the name of the first domain stands
  somewhere in the field's name: such a field is read as one that is named for the first domain
  (`condition_of_keyField`).
-/
import CriteriaSql.Proofs.Path.Reachability
import CriteriaSql.Proofs.Schemas
import CriteriaSql.Proofs.Shape.Conditions
import Mathlib

namespace CriteriaSql

/-! ## Names of key fields -/

/-- The name of a criteria field for the key of a domain. -/
def keyField (domain : String) (op : Operator) : String := domain ++ "Id" ++ op.suffix

namespace Operator

theorem ofChars_key (base : List Char) (op : Operator) :
    ofChars (base ++ ['I', 'd'] ++ op.suffix.toList) = (base ++ ['I', 'd'], op) := by
  have hown : base? (base ++ ['I', 'd'] ++ op.suffix.toList) op = some (base ++ ['I', 'd'], op) :=
    base?_eq_some_iff.2 ⟨rfl, by simp, rfl⟩
  -- no suffix that is tried before the operator's own ends in the same letters
  unfold ofChars suffixed
  cases op <;> simp only [List.findSome?_cons, hown] <;>
    simp [base?, Text.dropEnding?, List.isSuffixOf, suffix]

/-- The name of a key field asks for the operator by whose suffix it is made. -/
theorem ofName_keyField (domain : String) (op : Operator) :
    ofName (keyField domain op) = (domain ++ "Id", op) := by
  have hchars : (keyField domain op).toList =
      domain.toList ++ ['I', 'd'] ++ op.suffix.toList := by
    simp [keyField]
  unfold ofName
  rw [hchars, ofChars_key]
  refine Prod.ext (String.toList_inj.1 ?_) rfl
  simp

end Operator

theorem contains_keyField (domain : String) (op : Operator) :
    Text.contains (keyField domain op) domain = true :=
  Text.hasPart_iff.2 ⟨[], "Id".toList ++ op.suffix.toList, by simp [keyField]⟩

/-! ## Texts of path filters -/

/-- The query of a path selects the key that its last step reaches, and its innermost condition is
    the one on its first step. -/
theorem Condition.exists_text_pathQuery (condition : Fragment) (hop : Hop) (hops : List Hop) :
    ∃ tables, (pathQuery condition hop hops).text =
      "SELECT " ++ (hops.getLastD hop).target ++ " FROM " ++ tables ++ " WHERE " ++
        condition.text ++ String.ofList (List.replicate hops.length ')') := by
  induction hops generalizing condition hop with
  | nil =>
    refine ⟨hop.table, String.toList_inj.1 ?_⟩
    simp [pathQuery_nil, hopQuery]
  | cons next hops ih =>
    obtain ⟨tables, htables⟩ := ih (next.source ++ " IN (" ++ hopQuery hop condition ++ ")") next
    refine ⟨tables ++ " WHERE " ++ next.source ++ " IN (SELECT " ++ hop.target ++ " FROM " ++
      hop.table, String.toList_inj.1 ?_⟩
    rw [pathQuery_cons, htables, List.getLastD_cons]
    simp [hopQuery, List.replicate_succ]

/-- A condition that selects ids from the one key to the other: its outermost query selects the key
    `goal`, and its innermost condition is the comparison of the key `start` with a value of the
    given shape. -/
def Fragment.Leads (f : Fragment) (op : Operator) (shape : Shape) (start goal : String) : Prop :=
  ∃ tables condition, ∃ depth : Nat, op.comparison start shape = some condition ∧
    f.text = "id IN (SELECT " ++ goal ++ " FROM " ++ tables ++ " WHERE " ++ condition ++
      String.ofList (List.replicate depth ')')

/-- A condition selects one key only, if keys have no blanks. -/
theorem Fragment.Leads.goal_unique {f : Fragment} {op : Operator} {shape : Shape}
    {start goal start' goal' : String} (h : f.Leads op shape start goal)
    (h' : f.Leads op shape start' goal') (hgoal : ' ' ∉ goal.toList)
    (hgoal' : ' ' ∉ goal'.toList) : goal = goal' := by
  obtain ⟨tables, condition, depth, -, htext⟩ := h
  obtain ⟨tables', condition', depth', -, htext'⟩ := h'
  have hfrom : " FROM " = " " ++ "FROM " := rfl
  have heq := htext.symm.trans htext'
  simp only [hfrom, String.append_assoc, String.append_right_inj] at heq
  exact (RowTest.append_blank_inj hgoal hgoal' heq).1

section

variable {path : DomainPath} {first last : String} {between : List String} {s : Settings}

/-- A path filter leads from the key at the end from which its path is read to that at the other
    end. -/
theorem Condition.leads_of_domainPath {x : Operand} {op : Operator} {f : Fragment}
    (hdomains : path.domains = first :: (between ++ [last]))
    (h : domainPath x s path op = .ok (some f)) :
    let reversed := readsFromEnd path x.field
    f.Leads op x.value.shape (s.joinId (if reversed then last else first))
      (s.joinId (if reversed then first else last)) := by
  intro reversed
  obtain ⟨hop, hops, condition, hhops, hfound, rfl⟩ := domainPath_eq_some h
  obtain ⟨hstart, hgoal⟩ := DomainPath.joinIds_ends hdomains s reversed
  rw [ExpandedPath.head?_joinIds hhops, Option.some.injEq] at hstart
  rw [DomainPath.getLast?_joinIds hhops, Option.some.injEq] at hgoal
  obtain ⟨tables, htables⟩ := exists_text_pathQuery condition hop hops
  have hcondition := Operand.text_compare hfound
  rw [Option.map_some, hstart] at hcondition
  refine ⟨tables, condition.text, hops.length + 1, hcondition.symm, String.toList_inj.1 ?_⟩
  rw [← hgoal]
  simp [htables, List.replicate_succ']

/-! ## Fields named for keys -/

theorem Condition.readsFromEnd_eq (hdomains : path.domains = first :: (between ++ [last]))
    (field : String) :
    readsFromEnd path field = (!Text.contains field first && Text.contains field last) := by
  have hlast : path.domains.getLast? = some last := by
    rw [hdomains, ← List.cons_append, List.getLast?_concat]
  unfold readsFromEnd
  rw [DomainPath.head?_domains hdomains, hlast]

namespace FieldPlan

variable {marks : Marks} {mapCamelCase : Bool} {field : String} {p : FieldPlan FilterForm}
  {op : Operator} {f : Fragment} {value : FieldValue}

/-- A path filter takes the operator that the name of its field asks for. -/
theorem operator_of_domainPath (hplan : CriteriaSchema.plan marks mapCamelCase field = .ok p)
    (hkind : p.kind = .domainPath path op) : op = (Operator.ofName field).2 := by
  obtain ⟨mark, -, hmarked⟩ :=
    CriteriaSchema.exists_mark_of_plan hplan (by simp [hkind]) (by simp [hkind])
  rw [hkind] at hmarked
  cases hmarked
  rfl

theorem domainPath_of_condition (hkind : p.kind = .domainPath path op)
    (h : p.condition s value = .ok (some f)) :
    Condition.domainPath ⟨p.name, p.encoding, value⟩ s path op = .ok (some f) := by
  have hposes := (poses_of_condition h).2
  rwa [hkind] at hposes

/-- The field for the key of the first domain of a path compares that key and selects the key of
    the last one. The field for the key of the last domain does the same backwards if and only if
    its name does not hold that of the first domain, or the domains have one key. -/
theorem condition_of_keyField {taken : Operator} {domain : String}
    (hplan : CriteriaSchema.plan marks mapCamelCase (keyField domain op) = .ok p)
    (hkind : p.kind = .domainPath path taken)
    (hdomains : path.domains = first :: (between ++ [last]))
    (h : p.condition s value = .ok (some f)) :
    taken = op ∧
    (domain = first → f.Leads op value.shape (s.joinId first) (s.joinId last)) ∧
    (domain = last →
      (Text.contains (keyField last op) first = false →
        f.Leads op value.shape (s.joinId last) (s.joinId first)) ∧
      (Text.contains (keyField last op) first = true →
        f.Leads op value.shape (s.joinId first) (s.joinId last)) ∧
      (' ' ∉ (s.joinId first).toList → ' ' ∉ (s.joinId last).toList →
        (f.Leads op value.shape (s.joinId last) (s.joinId first) ↔
          Text.contains (keyField last op) first = false ∨ s.joinId first = s.joinId last))) := by
  have htaken : taken = op := by
    rw [operator_of_domainPath hplan hkind, Operator.ofName_keyField]
  subst htaken
  have hname : p.name = keyField domain taken := (CriteriaSchema.plan_spec hplan).1
  have hleads := Condition.leads_of_domainPath hdomains (domainPath_of_condition hkind h)
  rw [hname, Condition.readsFromEnd_eq hdomains] at hleads
  refine ⟨rfl, ?_, ?_⟩
  · rintro rfl
    rw [contains_keyField] at hleads
    exact hleads
  · rintro rfl
    rw [contains_keyField, Bool.and_true] at hleads
    have hforth (hfirst : Text.contains (keyField domain taken) first = false) :
        f.Leads taken value.shape (s.joinId domain) (s.joinId first) := by
      rw [hfirst] at hleads
      exact hleads
    have hback (hfirst : Text.contains (keyField domain taken) first = true) :
        f.Leads taken value.shape (s.joinId first) (s.joinId domain) := by
      rw [hfirst] at hleads
      exact hleads
    refine ⟨hforth, hback, fun hblank hblank' => ⟨fun hlast => ?_, ?_⟩⟩
    · -- read forwards the condition selects the last key, and a condition selects one key only
      by_contra hneither
      obtain ⟨hfirst, hdiffer⟩ := not_or.1 hneither
      rw [Bool.not_eq_false] at hfirst
      exact hdiffer (hlast.goal_unique (hback hfirst) hblank hblank')
    · rintro (hfirst | hsame)
      · exact hforth hfirst
      · cases hfirst : Text.contains (keyField domain taken) first with
        | false => exact hforth hfirst
        | true =>
          have hboth := hback hfirst
          rwa [hsame] at hboth ⊢

/-- Users by the keys of permissions. -/
def ofPermissions : FieldPlan FilterForm :=
  ⟨"permIdIn", "permId", .domainPath usersToPermissions .oneOf, .ordinal⟩

set_option maxRecDepth 20000 in
theorem condition_ofPermissions :
    ∃ f, ofPermissions.condition .default (.list [.scalar (.int 1), .scalar (.int 2)]) =
        .ok (some f) ∧
      f.text = "id IN (SELECT userId FROM t_user_and_role WHERE roleId IN " ++
        "(SELECT roleId FROM t_role_and_perm WHERE permId IN (?, ?)))" ∧
      f.Leads .oneOf (.list 2) "permId" "userId" := by
  have hplan : CriteriaSchema.plan [("permIdIn", .domainPath usersToPermissions)] false
      (keyField "perm" .oneOf) = .ok ofPermissions := by cbv
  have hdomains : usersToPermissions.domains = "user" :: (["role"] ++ ["perm"]) := rfl
  obtain ⟨f, hf, htext⟩ : ∃ f, ofPermissions.condition .default
      (.list [.scalar (.int 1), .scalar (.int 2)]) = .ok (some f) ∧
      f.text = "id IN (SELECT userId FROM t_user_and_role WHERE roleId IN " ++
        "(SELECT roleId FROM t_role_and_perm WHERE permId IN (?, ?)))" := ⟨_, by cbv, by cbv⟩
  obtain ⟨-, -, hlast⟩ := condition_of_keyField hplan rfl hdomains hf
  have huser : Text.contains (keyField "perm" .oneOf) "user" = false := by cbv
  have hkeys : Settings.default.joinId "perm" = "permId" ∧
      Settings.default.joinId "user" = "userId" := by
    constructor <;> cbv
  have hleads := (hlast rfl).1 huser
  rw [hkeys.1, hkeys.2] at hleads
  exact ⟨f, hf, htext, hleads⟩

/-- Users by the key of a group. -/
def ofUserGroup : FieldPlan FilterForm :=
  ⟨"userGroupId", "userGroupId", .domainPath ⟨["user", "userGroup"], none, none⟩ .eq, .ordinal⟩

set_option maxRecDepth 20000 in
/-- The key of a group is compared with the keys of users. -/
theorem condition_ofUserGroup :
    CriteriaSchema.plan [("userGroupId", .domainPath ⟨["user", "userGroup"], none, none⟩)] false
        (keyField "userGroup" .eq) = .ok ofUserGroup ∧
      ∃ f, ofUserGroup.condition .default (.scalar (.int 5)) = .ok (some f) ∧
        f = ⟨"id IN (SELECT userGroupId FROM t_user_and_userGroup WHERE userId = ?)", [.int 5]⟩ ∧
        ¬ f.Leads .eq .other "userGroupId" "userId" := by
  refine ⟨by cbv, _, by cbv, rfl, fun hleads => ?_⟩
  have hback : Fragment.Leads
      ⟨"id IN (SELECT userGroupId FROM t_user_and_userGroup WHERE userId = ?)", [.int 5]⟩
      .eq .other "userId" "userGroupId" :=
    ⟨"t_user_and_userGroup", "userId = ?", 1, by decide, by decide⟩
  have hgoals := hleads.goal_unique hback (by decide) (by decide)
  exact absurd hgoals (by decide)

end FieldPlan

end

end CriteriaSql
