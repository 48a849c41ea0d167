/-
  Places in lists. The conditions, clauses and lookups over paths and levels can be computed by
  going over numbered places: step `i` takes the join table `i` and the keys `i` and `i + 1`, level
  `i` is compared with what level `i + 1` selects, and the target table stands behind the last join
  table. Here they are computed so, with no result where a place is missing. For what was accepted
  none is missing, and the result is the same (`places_exist`).
-/
import CriteriaSql.Proofs.Path.Levels
import CriteriaSql.Proofs.Path.NoStep
import Mathlib

namespace CriteriaSql

/-! ## Loops over places -/

section Loops

variable {α β : Type} {read : Nat → Option α} {xs : List α} {x : α} {start : Nat}

/-- What is read at the places from `start` on are the items of the list. -/
def ReadsFrom (read : Nat → Option α) (start : Nat) (xs : List α) : Prop :=
  ∀ i < xs.length, read (start + i) = xs[i]?

theorem ReadsFrom.head (h : ReadsFrom read start (x :: xs)) : read start = some x :=
  h 0 (Nat.zero_lt_succ _)

theorem ReadsFrom.tail (h : ReadsFrom read start (x :: xs)) : ReadsFrom read (start + 1) xs := by
  intro i hi
  rw [Nat.add_assoc, Nat.add_comm 1 i, h (i + 1) (Nat.succ_lt_succ hi), List.getElem?_cons_succ]

/-- A loop upwards over places that are all there goes over the list. -/
theorem foldlM_places (h : ReadsFrom read start xs) (step : β → α → β) (b : β) :
    (List.range' start xs.length).foldlM (fun inner i => (read i).map (step inner)) b =
      some (xs.foldl step b) := by
  induction xs generalizing start b with
  | nil => rfl
  | cons x xs ih =>
    rw [List.length_cons, List.range'_succ, List.foldlM_cons, h.head]
    exact ih h.tail (step b x)

/-- A loop downwards over places that are all there goes over the list from its end. -/
theorem foldrM_places (h : ReadsFrom read start xs) (step : α → β → β) (b : β) :
    (List.range' start xs.length).reverse.foldlM (fun inner i => (read i).map (step · inner)) b =
      some (xs.foldr step b) := by
  rw [List.foldlM_reverse]
  induction xs generalizing start with
  | nil => rfl
  | cons x xs ih =>
    rw [List.length_cons, List.range'_succ, List.foldrM_cons, ih h.tail]
    simp only [bind, Option.bind, h.head, Option.map_some, List.foldr_cons]

/-- Places that are all there give the list. -/
theorem mapM_places (h : ReadsFrom read start xs) :
    (List.range' start xs.length).mapM read = some xs := by
  induction xs generalizing start with
  | nil => rfl
  | cons x xs ih =>
    rw [List.length_cons, List.range'_succ, List.mapM_cons, h.head, ih h.tail]
    rfl

/-- An item with the one behind it. -/
def pairAt? (xs : List α) (i : Nat) : Option (α × α) := do
  let item ← xs[i]?
  let next ← xs[i + 1]?
  some (item, next)

theorem readsFrom_pairAt? (x : α) (xs : List α) :
    ReadsFrom (pairAt? (x :: xs)) 0 ((x :: xs).zip xs) := by
  intro i _
  rw [Nat.zero_add]
  refine Option.ext fun pair => ?_
  rw [List.getElem?_zip_eq_some]
  obtain ⟨item, next⟩ := pair
  simp [pairAt?, Option.bind_eq_some_iff]

end Loops

/-- A step that may fail, before further places are looked at. -/
def thenPlaces {α β : Type} (x : Except Error α) (k : α → Option (Except Error β)) :
    Option (Except Error β) :=
  match x with
  | .error e => some (.error e)
  | .ok a => k a

theorem thenPlaces_eq {α β : Type} {x : Except Error α} {k : α → Option (Except Error β)}
    {l : α → Except Error β} (h : ∀ a, x = .ok a → k a = some (l a)) :
    thenPlaces x k = some (x >>= l) := by
  cases x with
  | error e => rfl
  | ok a => exact h a rfl

/-! ## Steps -/

namespace ExpandedPath

/-- The step at a place, from the join tables and the keys. -/
def stepAt? (path : ExpandedPath) (i : Nat) : Option Hop := do
  let table ← path.joinTables[i]?
  let source ← path.joinIds[i]?
  let target ← path.joinIds[i + 1]?
  some ⟨table, source, target⟩

theorem stepAt?_eq (path : ExpandedPath) (i : Nat) : path.stepAt? i = path.hops[i]? := by
  refine Option.ext fun hop => ?_
  rw [getElem?_hops]
  obtain ⟨table, source, target⟩ := hop
  simp only [stepAt?, bind, Option.bind_eq_some_iff, Option.some.injEq, Hop.mk.injEq]
  constructor
  · rintro ⟨_, htable, _, hsource, _, htarget, rfl, rfl, rfl⟩
    exact ⟨htable, hsource, htarget⟩
  · rintro ⟨htable, hsource, htarget⟩
    exact ⟨table, htable, source, hsource, target, htarget, rfl, rfl, rfl⟩

/-- The query for the keys at the end of a path: the first step under a condition, then each step
    from place 1 on. -/
def queryByPlaces (path : ExpandedPath) (condition : Fragment) : Option Fragment := do
  let first ← path.stepAt? 0
  (List.range' 1 (path.joinTables.length - 1)).foldlM
    (fun inner i => (path.stepAt? i).map fun hop =>
      Condition.hopQuery hop (hop.source ++ " IN (" ++ inner ++ ")"))
    (Condition.hopQuery first condition)

end ExpandedPath

namespace DomainPath

variable {path : DomainPath} {s : Settings} {reversed : Bool} {hop : Hop} {hops : List Hop}

theorem stepAt?_zero (h : (path.expand s reversed).hops = hop :: hops) :
    (path.expand s reversed).stepAt? 0 = some hop := by
  rw [ExpandedPath.stepAt?_eq, h, List.getElem?_cons_zero]

/-- The steps behind the first one stand at the places from 1 up to the number of join tables. -/
theorem stepAt?_add_one (h : (path.expand s reversed).hops = hop :: hops) :
    hops.length = (path.expand s reversed).joinTables.length - 1 ∧
      ReadsFrom (path.expand s reversed).stepAt? 1 hops := by
  constructor
  · rw [length_joinTables_of_hops h, Nat.add_sub_cancel]
  · intro i _
    rw [ExpandedPath.stepAt?_eq, h, Nat.add_comm, List.getElem?_cons_succ]

theorem queryByPlaces_eq (h : (path.expand s reversed).hops = hop :: hops) (condition : Fragment) :
    (path.expand s reversed).queryByPlaces condition =
      some (Condition.pathQuery condition hop hops) := by
  obtain ⟨hlength, hsteps⟩ := stepAt?_add_one h
  unfold ExpandedPath.queryByPlaces
  rw [stepAt?_zero h, ← hlength]
  exact foldlM_places hsteps
    (fun inner next => Condition.hopQuery next (next.source ++ " IN (" ++ inner ++ ")"))
    (Condition.hopQuery hop condition)

/-- The key of the first step is the first one. -/
theorem joinIds_zero (h : (path.expand s reversed).hops = hop :: hops) :
    (path.expand s reversed).joinIds[0]? = some hop.source := by
  rw [← List.head?_eq_getElem?]
  exact ExpandedPath.head?_joinIds h

/-- The target table and its key stand behind the last join table. -/
theorem target_at_length (h : (path.expand s reversed).hops = hop :: hops) :
    (path.expand s reversed).tables[(path.expand s reversed).joinTables.length]? =
        some (path.expand s reversed).targetTable ∧
      (path.expand s reversed).joinIds[(path.expand s reversed).joinTables.length]? =
        some (hops.getLastD hop).target := by
  have hjoins := length_joinTables_of_hops h
  have htables := path.length_tables_expand s reversed
  have hkeys := path.length_joinIds_expand s reversed
  have hcount := path.length_joinTables_expand s reversed
  have hlast {xs : List String} (hlength : xs.length = path.domains.length) :
      xs[(path.expand s reversed).joinTables.length]? = xs.getLast? := by
    rw [List.getLast?_eq_getElem?, hlength, hcount]
  constructor
  · have hne : (path.expand s reversed).tables ≠ [] := by
      refine List.ne_nil_of_length_pos ?_
      omega
    rw [hlast htables, ExpandedPath.targetTable, List.getLastD_eq_getLast?,
      List.getLast?_eq_some_getLast hne]
    rfl
  · rw [hlast hkeys]
    exact getLast?_joinIds h

end DomainPath

/-! ## Join tables -/

/-- The join tables of domains, by places: table `i` joins the domains `i` and `i + 1`. -/
def DomainPath.joinTablesByPlaces (s : Settings) (domains : List String) : Option (List String) :=
  ((List.range' 0 (domains.length - 1)).mapM (pairAt? domains)).map
    (List.map fun pair => s.joinTable pair.1 pair.2)

theorem DomainPath.joinTablesByPlaces_eq (s : Settings) (domains : List String) :
    joinTablesByPlaces s domains = some (joinTables s domains) := by
  cases domains with
  | nil => rfl
  | cons first rest =>
    have hpairs : ((first :: rest).zip rest).length = (first :: rest).length - 1 := by simp
    have hjoins : ((first :: rest).zip rest).map (fun pair => s.joinTable pair.1 pair.2) =
        joinTables s (first :: rest) := by
      induction rest generalizing first with
      | nil => rfl
      | cons second rest ih =>
        rw [List.zip_cons_cons, List.map_cons, ih second (by simp), joinTables]
    unfold joinTablesByPlaces
    rw [← hpairs, mapM_places (readsFrom_pairAt? first rest), Option.map_some, hjoins]

/-! ## Conditions -/

namespace Condition

/-- The condition over a path, by places. -/
def domainPathByPlaces (x : Operand) (s : Settings) (path : DomainPath) (op : Operator) :
    Option (Except Error (Option Fragment)) := do
  let expanded := path.expand s (readsFromEnd path x.field)
  let key ← expanded.joinIds[0]?
  thenPlaces (x.compare key op) fun
    | none => some (.ok none)
    | some condition =>
      (expanded.queryByPlaces condition).map fun ids => .ok (some ("id IN (" ++ ids ++ ")"))

theorem domainPathByPlaces_eq (x : Operand) (s : Settings) {path : DomainPath} (op : Operator)
    (hlong : 2 ≤ path.domains.length) :
    domainPathByPlaces x s path op = some (domainPath x s path op) := by
  obtain ⟨hop, hops, hhops⟩ := path.exists_hops s (readsFromEnd path x.field) hlong
  unfold domainPathByPlaces
  simp only [DomainPath.joinIds_zero hhops, DomainPath.queryByPlaces_eq hhops, Option.map_some,
    bind, Option.bind]
  rw [domainPath_eq_map hhops]
  cases x.compare hop.source op with
  | error e => rfl
  | ok found => cases found <;> rfl

/-- A level around the query of the levels within it, with the level that it is compared with. -/
def levelAround (pair : Level × Level) (inner : Fragment) : Fragment :=
  levelHead pair.1 ++ " WHERE " ++ pair.1.where?.getD pair.2.select ++ " IN (" ++ inner ++ ")"

/-- The query of levels, by places: from the last but one down to the first. Without a level there
    is no place before the last. -/
def nestedQueryByPlaces (tail : Fragment) (levels : List Level) : Option Fragment := do
  let innermost ← levels.getLast?
  let count ← levels.length.ppred
  (List.range' 0 count).reverse.foldlM
    (fun inner i => (pairAt? levels i).map (levelAround · inner)) (levelHead innermost ++ tail)

/-- The condition by nested queries, by places. -/
def nestedByPlaces (x : Operand) (column : String) (queries : NestedQueries) (op : Operator) :
    Option (Except Error (Option Fragment)) :=
  let within (tail : Fragment) : Option (Except Error (Option Fragment)) :=
    (nestedQueryByPlaces tail queries.levels).map fun query =>
      .ok (some (queries.column ++ " IN (" ++ query ++ ")"))
  match queries.levels.getLast? with
  | none => some (.ok none)
  | some last =>
    if queries.appendWhere then
      thenPlaces (x.compare (last.where?.getD column) op) fun
        | none => some (.ok none)
        | some f => within (" WHERE " ++ f)
    else within .empty

/-- The levels around the innermost one, each with the level it is compared with. -/
theorem nestedQuery_eq_foldr (tail : Fragment) (level : Level) (levels : List Level) :
    nestedQuery tail level levels =
      ((level :: levels).zip levels).foldr levelAround
        (levelHead (levels.getLastD level) ++ tail) := by
  induction levels generalizing level with
  | nil => rfl
  | cons next levels ih =>
    rw [nestedQuery, ih, List.zip_cons_cons, List.foldr_cons, List.getLastD_cons]
    rfl

theorem nestedQueryByPlaces_eq (tail : Fragment) (level : Level) (levels : List Level) :
    nestedQueryByPlaces tail (level :: levels) = some (nestedQuery tail level levels) := by
  have hpairs : ((level :: levels).zip levels).length = levels.length := by simp
  have hloop := foldrM_places (readsFrom_pairAt? level levels) levelAround
    (levelHead (levels.getLastD level) ++ tail)
  rw [hpairs] at hloop
  unfold nestedQueryByPlaces
  rw [List.getLast?_cons, List.length_cons, Nat.ppred_succ, nestedQuery_eq_foldr,
    ← List.getLastD_eq_getLast?]
  exact hloop

theorem nestedByPlaces_eq (x : Operand) (column : String) (queries : NestedQueries)
    (op : Operator) : nestedByPlaces x column queries op = some (nested x column queries op) := by
  unfold nestedByPlaces nested
  cases hlevels : queries.levels with
  | nil => rfl
  | cons level levels =>
    simp only [List.getLast?_cons, nestedQueryByPlaces_eq, Option.map_some,
      ← List.getLastD_eq_getLast?]
    split
    · cases x.compare ((levels.getLastD level).where?.getD column) op with
      | error e => rfl
      | ok found => cases found <;> rfl
    · rfl

end Condition

/-- The condition of a field, by places where its form has any. -/
def FieldPlan.conditionByPlaces (plan : FieldPlan FilterForm) (s : Settings) (value : FieldValue) :
    Option (Except Error (Option Fragment)) :=
  let x : Operand := ⟨plan.name, plan.encoding, value⟩
  if value.isIdle then some (.ok none)
  else
    match plan.kind with
    | .nested queries op => Condition.nestedByPlaces x plan.column queries op
    | .domainPath path op => Condition.domainPathByPlaces x s path op
    | _ => some (plan.condition s value)

theorem FieldPlan.conditionByPlaces_eq {plan : FieldPlan FilterForm} (hplan : plan.HasSteps)
    (s : Settings) (value : FieldValue) :
    plan.conditionByPlaces s value = some (plan.condition s value) := by
  unfold conditionByPlaces
  dsimp only
  split
  next hidle =>
    unfold condition
    rw [if_pos hidle]
  next hasks =>
    split
    next queries op hkind =>
      rw [Condition.nestedByPlaces_eq, condition, if_neg hasks, hkind]
    next path op hkind =>
      rw [Condition.domainPathByPlaces_eq _ s op (hplan path op hkind), condition, if_neg hasks,
        hkind]
    next => rfl

/-! ## Relations -/

namespace Relation

/-- The clause of an owner, by places. -/
def clauseByPlaces (relation : Relation) (s : Settings) (field columns ownerTable : String)
    (owner : Scalar) : Option (Except Error Fragment) := do
  let first ← relation.path.domains[0]?
  if relation.path.domains.length = 1 then
    match relation.path.foreignKey with
    | some key =>
      some (.ok (Related.directClause s columns ownerTable first key relation.cardinality owner))
    | none => some (.error (.invalidDomainPath field .noRelationKey))
  else do
    let expanded := relation.path.expand s (Related.readsFromEnd s ownerTable first)
    let key ← expanded.joinIds[0]?
    let ids ← expanded.queryByPlaces (columnEquals key owner)
    let target ← expanded.tables[expanded.joinTables.length]?
    some (.ok (Related.head columns owner ++ " FROM " ++ target ++ " WHERE id IN (" ++ ids ++ ")"))

theorem clauseByPlaces_eq {relation : Relation} (hsome : relation.path.domains ≠ [])
    (s : Settings) (field columns ownerTable : String) (owner : Scalar) :
    relation.clauseByPlaces s field columns ownerTable owner =
      some ((Related.relationClause s field columns ownerTable relation).map fun clause =>
        clause owner) := by
  obtain ⟨first, rest, hdomains⟩ := List.exists_cons_of_ne_nil hsome
  have hfirst : relation.path.domains[0]? = some first := by rw [hdomains]; rfl
  unfold clauseByPlaces
  simp only [hfirst, bind, Option.bind]
  split
  next hone =>
    have hrest : rest = [] := by
      rw [hdomains, List.length_cons, Nat.succ_inj, List.length_eq_zero_iff] at hone
      exact hone
    unfold Related.relationClause
    rw [hdomains, hrest]
    cases relation.path.foreignKey <;> rfl
  next hne =>
    have hlong := DomainPath.two_le_of_ne_one hsome hne
    obtain ⟨hop, hops, hhops⟩ :=
      relation.path.exists_hops s (Related.readsFromEnd s ownerTable first) hlong
    rw [Related.relationClause_of_hops field columns
      (by rw [List.head?_eq_getElem?]; exact hfirst) hlong hhops]
    simp only [DomainPath.joinIds_zero hhops, DomainPath.queryByPlaces_eq hhops,
      (DomainPath.target_at_length hhops).1]
    rfl

end Relation

/-! ## Lookups -/

/-- The lookup over a path, by places: the target first, then the steps down to place 1, and the
    first step around them. -/
def Lookup.overPathByPlaces (view : String) (after closing : List Stage) (path : ExpandedPath) :
    Option Stage := do
  let count := path.joinTables.length
  let table ← path.tables[count]?
  let key ← path.joinIds[count]?
  let pipeline ← (List.range' 1 (count - 1)).reverse.foldlM
    (fun inner i => (path.stepAt? i).map fun hop =>
      .lookup hop.table hop.source hop.source inner view :: after)
    (.lookup table key idField [] view :: closing)
  let first ← path.stepAt? 0
  some (.lookup first.table idField first.source pipeline view)

theorem Lookup.overPathByPlaces_eq (view : String) (after closing : List Stage)
    {path : DomainPath} {s : Settings} (reversed : Bool) (hlong : 2 ≤ path.domains.length) :
    (overPathByPlaces view after closing (path.expand s reversed)).map Except.ok =
      some (overPath view after closing (path.expand s reversed)) := by
  obtain ⟨hop, hops, hhops⟩ := path.exists_hops s reversed hlong
  obtain ⟨hlength, hsteps⟩ := DomainPath.stepAt?_add_one hhops
  obtain ⟨htarget, hkey⟩ := DomainPath.target_at_length hhops
  have hloop := foldrM_places hsteps
    (fun hop inner => Stage.lookup hop.table hop.source hop.source inner view :: after)
    (.lookup (path.expand s reversed).targetTable (hops.getLastD hop).target idField [] view ::
      closing)
  rw [hlength] at hloop
  unfold overPathByPlaces
  simp only [htarget, hkey, bind, Option.bind] at hloop ⊢
  simp only [hloop, DomainPath.stepAt?_zero hhops, Option.map_some]
  rw [overPath_eq_ok.2 ⟨hop, hops, hhops, rfl⟩]
  rfl

/-- The lookup of a relation under a filter that was built or not, by places. -/
def Relation.lookupByPlaces (relation : Relation) (s : Settings) (field : String) (project : Stage)
    (filter : Except Error DocumentFilter) : Option (Except Error Stage) :=
  if relation.path.domains.length = 1 then do
    let domain ← relation.path.domains[0]?
    some (relation.directLookup s domain field project)
  else
    thenPlaces filter fun filter =>
      let after := [Stage.unwind field, .replaceRoot field]
      (Lookup.overPathByPlaces field after (after ++ [.matching filter.toJson, project])
        (relation.path.expand s (relation.isReversed field))).map .ok

theorem RecordType.lookupByPlaces_eq {owner view : RecordType} {s : Settings} {field : String}
    {schema viewSchema : EntitySchema} {relation : Relation}
    (howner : owner.asEntity s = .ok schema) (hrelation : schema.relation field = .ok relation)
    (hview : view.asEntity s = .ok viewSchema) (hsome : relation.path.domains ≠ []) (q : Query) :
    relation.lookupByPlaces s field viewSchema.projection (q.filter s) =
      some (owner.lookup view s q field) := by
  unfold Relation.lookupByPlaces
  split
  next hone =>
    obtain ⟨domain, hdomain⟩ := List.length_eq_one_iff.1 hone
    rw [lookup_of_one howner hrelation hview hdomain, hdomain]
    rfl
  next hne =>
    have hlong := DomainPath.two_le_of_ne_one hsome hne
    rw [lookup_of_ne_one howner hrelation hview hne]
    exact thenPlaces_eq fun filter _ => Lookup.overPathByPlaces_eq field _ _ _ hlong

/-- The lookup of the one document that a view stands for, by places. -/
def DomainPath.lookupByPlaces (path : DomainPath) (s : Settings) (view : String) :
    Option (Except Error Stage) :=
  thenPlaces (path.validate view 1) fun _ =>
    if path.domains.length = 1 then do
      let domain ← path.domains[0]?
      match path.localField with
      | none => some (.error (.invalidDomainPath view .noLocalField))
      | some localField => some (.ok (.lookup (s.table domain) localField Lookup.idField [] view))
    else
      let after := [Stage.replaceRootFirst view]
      (Lookup.overPathByPlaces view after after (path.expand s (path.isNamedForFirst view))).map .ok

theorem DomainPath.lookupByPlaces_eq (path : DomainPath) (s : Settings) (view : String) :
    path.lookupByPlaces s view = some (path.lookup s view) := by
  unfold lookupByPlaces lookup
  refine thenPlaces_eq fun _ hvalid => ?_
  have hsome := ne_nil_of_validate hvalid
  split
  next hone =>
    obtain ⟨domain, hdomain⟩ := List.length_eq_one_iff.1 hone
    rw [hdomain]
    cases path.localField <;> rfl
  next hne =>
    have hlong := two_le_of_ne_one hsome hne
    split
    next domain hone =>
      rw [hone] at hne
      exact absurd rfl hne
    next => exact Lookup.overPathByPlaces_eq view _ _ _ hlong

/-! ## Every place is there -/

/-- For whatever was accepted, and for every configuration, all places are there. A path of at least
    one domain has as many tables as keys and one join table less, read from either end. By places,
    the conditions of a criteria schema that is built, the clauses and lookups of the relations of
    an entity schema that is built, and the lookups of views are what they are; and nothing is
    refused for a path without a step. -/
theorem places_exist (s : Settings) :
    (∀ path : DomainPath, path.domains ≠ [] → ∀ reversed,
      (path.expand s reversed).tables.length = (path.expand s reversed).joinIds.length ∧
        (path.expand s reversed).joinIds.length =
          (path.expand s reversed).joinTables.length + 1) ∧
    (∀ domains, DomainPath.joinTablesByPlaces s domains =
      some (DomainPath.joinTables s domains)) ∧
    (∀ (type : RecordType) schema, type.criteriaSchema s.mapCamelCase = .ok schema →
      ∀ plan ∈ schema.fields, ∀ value,
        plan.conditionByPlaces s value = some (plan.condition s value)) ∧
    (∀ (owner : RecordType) schema, owner.asEntity s = .ok schema →
      ∀ field relation, schema.relation field = .ok relation →
        (∀ columns ownerTable id, relation.clauseByPlaces s field columns ownerTable id =
          some ((Related.relationClause s field columns ownerTable relation).map fun clause =>
            clause id)) ∧
        ∀ (view : RecordType) viewSchema, view.asEntity s = .ok viewSchema → ∀ q,
          relation.lookupByPlaces s field viewSchema.projection (q.filter s) =
            some (owner.lookup view s q field)) ∧
    (∀ (path : DomainPath) view, path.lookupByPlaces s view = some (path.lookup s view)) ∧
    (∀ request : Request, Avoids Error.IsNoStep (request.statement s)) ∧
    ∀ (owner view : RecordType) q field, Avoids Error.IsNoStep (owner.lookup view s q field) := by
  refine ⟨fun path hsome reversed => ?_, DomainPath.joinTablesByPlaces_eq s,
    fun type schema hschema plan hplan value => ?_,
    fun owner schema howner field relation hrelation => ?_,
    fun path view => path.lookupByPlaces_eq s view, Request.noStep_statement,
    RecordType.noStep_lookup⟩
  · have hpos := List.length_pos_iff.2 hsome
    rw [DomainPath.length_tables_expand, DomainPath.length_joinIds_expand,
      DomainPath.length_joinTables_expand]
    omega
  · obtain ⟨names, hbuilt⟩ := RecordType.criteriaSchema_built hschema
    exact FieldPlan.conditionByPlaces_eq (hbuilt.hasSteps hplan) s value
  · have hsome := RecordType.path_ne_nil howner hrelation
    refine ⟨Relation.clauseByPlaces_eq hsome s field, fun view viewSchema hview q => ?_⟩
    exact RecordType.lookupByPlaces_eq howner hrelation hview hsome q

/-- Criteria for users by a permission, over their roles. -/
def permissionQuery : RecordType :=
  ⟨"UserQuery", some ["perm"], "t_user", none, none, [("perm", .domainPath usersToPermissions)]⟩

set_option maxRecDepth 20000 in
theorem places_exist_users :
    usersToPermissions.domains ≠ [] ∧
      (usersToPermissions.expand .default true).tables.length = 3 ∧
      (usersToPermissions.expand .default true).joinTables.length = 2 ∧
      permissionQuery.criteriaSchema false =
        .ok ⟨"UserQuery", ⟨"t_user", [.literal "t_user".toList]⟩, none, none,
          [permissionOfUser]⟩ ∧
      permissionOfUser.conditionByPlaces .default (.scalar (.int 7)) =
        some (.ok (some ⟨"id IN (SELECT userId FROM t_user_and_role WHERE roleId IN " ++
          "(SELECT roleId FROM t_role_and_perm WHERE permId = ?))", [.int 7]⟩)) ∧
      userView.asEntity .default = .ok userSchema ∧
      userSchema.relation "roles" = .ok rolesOfUser ∧
      rolesOfUser.clauseByPlaces .default "roles" "id" "t_user" (.int 1) =
        some (.ok ⟨"SELECT ? AS PK_FOR_JOIN, id FROM t_role WHERE id IN " ++
          "(SELECT roleId FROM t_user_and_role WHERE userId = ?)", [.int 1, .int 1]⟩) ∧
      ∃ itemSchema stage, itemView.asEntity .default = .ok itemSchema ∧
        userView.lookup itemView .default (Query.ofAge "7") "roles" = .ok stage ∧
        rolesOfUser.lookupByPlaces .default "roles" itemSchema.projection
          ((Query.ofAge "7").filter .default) = some (.ok stage) := by
  have hsome : usersToPermissions.domains ≠ [] := by decide
  have hquery : permissionQuery.criteriaSchema false =
      .ok ⟨"UserQuery", ⟨"t_user", [.literal "t_user".toList]⟩, none, none,
        [permissionOfUser]⟩ := by cbv
  have hrelation : userSchema.relation "roles" = .ok rolesOfUser := by cbv
  have hcondition : permissionOfUser.condition .default (.scalar (.int 7)) =
      .ok (some ⟨"id IN (SELECT userId FROM t_user_and_role WHERE roleId IN " ++
        "(SELECT roleId FROM t_role_and_perm WHERE permId = ?))", [.int 7]⟩) := by cbv
  have hclause : ((Related.relationClause .default "roles" "id" "t_user" rolesOfUser).map
      fun clause => clause (.int 1)) =
        .ok ⟨"SELECT ? AS PK_FOR_JOIN, id FROM t_role WHERE id IN " ++
          "(SELECT roleId FROM t_user_and_role WHERE userId = ?)", [.int 1, .int 1]⟩ := by cbv
  obtain ⟨itemSchema, hitem⟩ : ∃ itemSchema, itemView.asEntity .default = .ok itemSchema :=
    ⟨_, by cbv⟩
  obtain ⟨stage, hstage⟩ : ∃ stage,
      userView.lookup itemView .default (Query.ofAge "7") "roles" = .ok stage := ⟨_, by cbv⟩
  obtain ⟨hlengths, -, hconditions, hrelations, -⟩ := places_exist .default
  obtain ⟨hclauses, hlookups⟩ :=
    hrelations userView userSchema asEntity_userView "roles" rolesOfUser hrelation
  obtain ⟨htables, hkeys⟩ := hlengths usersToPermissions hsome true
  have hthree : (usersToPermissions.expand .default true).tables.length = 3 := by cbv
  have hplan := hconditions permissionQuery _ hquery permissionOfUser (List.mem_singleton_self _)
    (.scalar (.int 7))
  have hlookup := hlookups itemView itemSchema hitem (Query.ofAge "7")
  refine ⟨hsome, hthree, by omega, hquery, hplan.trans (congrArg some hcondition),
    asEntity_userView, hrelation, (hclauses "id" "t_user" (.int 1)).trans (congrArg some hclause),
    itemSchema, stage, hitem, hstage, ?_⟩
  rw [hlookup, hstage]

end CriteriaSql
