/-
  Path filters as nested queries. A path filter is written from its source outwards, step by step;
  nested queries are given from the outermost level inwards, and a level is compared with what the
  level within it selects. The steps of a path make such levels, the last step the outermost one:
  since each step starts from the key that the step before it reaches, that key is also what the
  level within selects, and only the innermost level has to be told its column.
-/
import CriteriaSql.Proofs.Path.Reachability
import CriteriaSql.Proofs.Pieces
import Mathlib

namespace CriteriaSql

/-! ## Levels -/

namespace ExpandedPath

/-- The level of step `i`: it selects the key that the step reaches from the step's join table. The
    first step is told the column it starts from. -/
def level (path : ExpandedPath) (i : Nat) : Level where
  select := path.joinIds.getD (i + 1) ""
  source := path.joinTables.getD i ""
  where? := if i = 0 then path.joinIds[0]? else none
  extra? := none

/-- The levels of the steps, the last step first. -/
def levels (path : ExpandedPath) : List Level :=
  (List.range path.joinTables.length).reverse.map path.level

/-- The ids that the levels of a path select under a condition on its source. -/
def queries (path : ExpandedPath) : NestedQueries := ⟨"id", path.levels, true⟩

end ExpandedPath

/-- The level of a step that starts from what the level within it selects. -/
def Hop.level (hop : Hop) : Level := ⟨hop.target, hop.table, none, none⟩

/-- The level of a first step, on which there is a condition. -/
def Hop.firstLevel (hop : Hop) : Level := { hop.level with where? := some hop.source }

theorem ExpandedPath.level_of_getElem? {path : ExpandedPath} {i : Nat} {hop : Hop}
    (h : path.hops[i]? = some hop) :
    path.level i = if i = 0 then hop.firstLevel else hop.level := by
  obtain ⟨htable, hsource, htarget⟩ := getElem?_hops.1 h
  unfold level
  rw [List.getD_eq_getElem?_getD, List.getD_eq_getElem?_getD, htable, htarget]
  split
  next hzero =>
    subst hzero
    rw [hsource]
    rfl
  next => rfl

/-- The levels of a path are those of its steps. -/
theorem DomainPath.levels_expand {path : DomainPath} {s : Settings} {reversed : Bool} {hop : Hop}
    {hops : List Hop} (h : (path.expand s reversed).hops = hop :: hops) :
    (path.expand s reversed).levels = hops.reverse.map Hop.level ++ [hop.firstLevel] := by
  have hfirst : (path.expand s reversed).level 0 = hop.firstLevel :=
    ExpandedPath.level_of_getElem? (by rw [h, List.getElem?_cons_zero])
  have hrest : (List.range hops.length).map (fun i => (path.expand s reversed).level (i + 1)) =
      hops.map Hop.level := by
    refine List.ext_getElem (by simp) fun i _ hi => ?_
    rw [List.length_map] at hi
    have hstep : (path.expand s reversed).hops[i + 1]? = some hops[i] := by
      rw [h, List.getElem?_cons_succ, List.getElem?_eq_getElem]
    rw [List.getElem_map, List.getElem_map, List.getElem_range,
      ExpandedPath.level_of_getElem? hstep, if_neg (Nat.succ_ne_zero i)]
  unfold ExpandedPath.levels
  rw [length_joinTables_of_hops h, List.range_succ_eq_map, List.reverse_cons, List.map_append,
    List.map_singleton, hfirst, ← List.map_reverse, List.map_map, List.map_reverse,
    List.map_reverse, ← hrest]
  rfl

/-! ## Steps as levels -/

namespace Condition

theorem pathQuery_concat (condition : Fragment) (hop last : Hop) (hops : List Hop) :
    pathQuery condition hop (hops ++ [last]) =
      hopQuery last (last.source ++ " IN (" ++ pathQuery condition hop hops ++ ")") := by
  unfold pathQuery
  rw [List.foldl_concat]

theorem hopQuery_eq (hop : Hop) (condition : Fragment) :
    hopQuery hop condition = levelHead hop.level ++ " WHERE " ++ condition := rfl

/-- The levels of connected steps, from the last one inwards, are the query for the keys at the end
    of the steps. -/
theorem nestedQuery_levels (hop : Hop) (hops : List Hop)
    (hchain : (hop :: hops).IsChain fun step next => step.target = next.source) :
    ∃ outer inner, hops.reverse.map Hop.level ++ [hop.firstLevel] = outer :: inner ∧
      outer.select = (hops.getLastD hop).target ∧
      ∀ condition, nestedQuery (" WHERE " ++ condition) outer inner =
        pathQuery condition hop hops := by
  -- the outermost level is that of the last step
  induction hops using List.reverseRecOn with
  | nil =>
    refine ⟨hop.firstLevel, [], rfl, rfl, fun condition => ?_⟩
    rw [pathQuery_nil, hopQuery_eq, Fragment.append_assoc]
    rfl
  | append_singleton hops last ih =>
    rw [← List.cons_append, List.isChain_append] at hchain
    obtain ⟨hbefore, -, hlast⟩ := hchain
    have hsource : (hops.getLastD hop).target = last.source := by
      refine hlast _ ?_ last rfl
      rw [List.getLast?_cons, List.getLastD_eq_getLast?]
      rfl
    obtain ⟨outer, inner, hlevels, hselect, hquery⟩ := ih hbefore
    refine ⟨last.level, outer :: inner, ?_, ?_, fun condition => ?_⟩
    · rw [List.reverse_concat, List.map_cons, List.cons_append, hlevels]
    · rw [List.getLastD_concat]
      rfl
    · have hnext : last.level.where?.getD outer.select = last.source := hselect.trans hsource
      rw [nestedQuery, hquery, hnext, pathQuery_concat, hopQuery_eq]
      simp only [Fragment.append_assoc]

/-- Nested queries with a condition compare the innermost column. -/
theorem nested_eq_map {x : Operand} {column : String} {queries : NestedQueries} {op : Operator}
    {outer : Level} {inner : List Level} (hlevels : queries.levels = outer :: inner)
    (happend : queries.appendWhere = true) :
    nested x column queries op =
      (x.compare ((inner.getLastD outer).where?.getD column) op).map (Option.map fun f =>
        queries.column ++ " IN (" ++ nestedQuery (" WHERE " ++ f) outer inner ++ ")") := by
  unfold nested
  rw [hlevels, happend]
  dsimp only
  rw [if_pos rfl]
  cases x.compare ((inner.getLastD outer).where?.getD column) op <;> rfl

/-- A path filter is a filter by the nested queries of the path. -/
theorem domainPath_eq_nested (x : Operand) (column : String) (s : Settings) {path : DomainPath}
    (op : Operator) (hlong : 2 ≤ path.domains.length) :
    domainPath x s path op =
      nested x column (path.expand s (readsFromEnd path x.field)).queries op := by
  obtain ⟨hop, hops, hhops⟩ := path.exists_hops s (readsFromEnd path x.field) hlong
  have hchain : (hop :: hops).IsChain fun step next => step.target = next.source :=
    hhops ▸ ExpandedPath.isChain_hopsOver _ _
  have hlevels := DomainPath.levels_expand hhops
  obtain ⟨outer, inner, hsplit, -, hquery⟩ := nestedQuery_levels hop hops hchain
  have hinnermost : inner.getLastD outer = hop.firstLevel := by
    rw [← Option.some_inj, List.getLastD_eq_getLast?, ← List.getLast?_cons, ← hsplit,
      List.getLast?_concat]
  have hcolumn : hop.firstLevel.where?.getD column = hop.source := rfl
  rw [domainPath_eq_map hhops, nested_eq_map (hlevels.trans hsplit) rfl, hinnermost, hcolumn]
  simp only [hquery]
  rfl

end Condition

/-! ## Fields -/

/-- The filter of a field over a path is that of the same field by nested queries: from the last
    step of the path inwards, each level selects the key that its step reaches from its join table;
    the innermost one is compared by the first key, every other by what the level within selects. -/
theorem condition_domainPath_eq_nested {plan : FieldPlan FilterForm} {path : DomainPath}
    {op : Operator} (hkind : plan.kind = .domainPath path op) (hlong : 2 ≤ path.domains.length)
    (s : Settings) (value : FieldValue) :
    plan.condition s value =
      { plan with
        kind := .nested (path.expand s (Condition.readsFromEnd path plan.name)).queries op :
          FieldPlan FilterForm }.condition s value := by
  unfold FieldPlan.condition
  rw [hkind]
  dsimp only
  split
  · rfl
  · exact Condition.domainPath_eq_nested ⟨plan.name, plan.encoding, value⟩ plan.column s op hlong

/-- The permission of a user, over the user's roles. -/
def permissionOfUser : FieldPlan FilterForm :=
  ⟨"perm", "perm", .domainPath usersToPermissions .eq, .ordinal⟩

set_option maxRecDepth 20000 in
theorem condition_domainPath_eq_nested_permission :
    2 ≤ usersToPermissions.domains.length ∧
      (usersToPermissions.expand .default true).queries =
        ⟨"id", [⟨"userId", "t_user_and_role", none, none⟩,
          ⟨"roleId", "t_role_and_perm", some "permId", none⟩], true⟩ ∧
      permissionOfUser.condition .default (.scalar (.int 7)) =
        { permissionOfUser with
          kind := .nested (usersToPermissions.expand .default true).queries .eq :
            FieldPlan FilterForm }.condition .default (.scalar (.int 7)) := by
  have hlong : 2 ≤ usersToPermissions.domains.length := by decide
  have hreversed : Condition.readsFromEnd usersToPermissions permissionOfUser.name = true := by cbv
  have hkind : permissionOfUser.kind = .domainPath usersToPermissions .eq := rfl
  have heq := condition_domainPath_eq_nested hkind hlong .default (.scalar (.int 7))
  rw [hreversed] at heq
  exact ⟨hlong, by cbv, heq⟩

end CriteriaSql
