/-
  The steps of an expanded path. Step `i` goes over the join table `i`, from the key `i` to the key
  `i + 1`. A path that is read from its end has all of its lists reversed, the join tables with the
  keys, so each join table still stands between the keys of the domains that it joins.
-/
import CriteriaSql.Proofs.Outcome
import CriteriaSql.Schema.Path

namespace CriteriaSql

namespace ExpandedPath

variable {path : ExpandedPath} {field : String} {hop : Hop} {hops : List Hop}

/-- The path read from its other end. -/
def reverse (path : ExpandedPath) : ExpandedPath :=
  ⟨path.tables.reverse, path.joinTables.reverse, path.joinIds.reverse⟩

/-! ## Steps by their places -/

theorem getElem?_hopsOver {tables keys : List String} {i : Nat} :
    (hopsOver tables keys)[i]? = some hop ↔
      tables[i]? = some hop.table ∧ keys[i]? = some hop.source ∧
        keys[i + 1]? = some hop.target := by
  induction tables generalizing keys i with
  | nil => simp [hopsOver]
  | cons table tables ih =>
    -- a step takes a table and two keys
    cases keys with
    | nil => simp [hopsOver]
    | cons source keys =>
      cases keys with
      | nil => simp [hopsOver]
      | cons target keys =>
        rw [hopsOver]
        cases i with
        | zero =>
          obtain ⟨table', source', target'⟩ := hop
          simp
        | succ i =>
          rw [List.getElem?_cons_succ, List.getElem?_cons_succ, List.getElem?_cons_succ, ih]
          rfl

/-- A step starts from the key that the step before it reaches. -/
theorem isChain_hopsOver (tables keys : List String) :
    (hopsOver tables keys).IsChain fun hop next => hop.target = next.source := by
  induction tables generalizing keys with
  | nil => simp [hopsOver]
  | cons table tables ih =>
    cases keys with
    | nil => simp [hopsOver]
    | cons source keys =>
      cases keys with
      | nil => simp [hopsOver]
      | cons target keys =>
        have hrest := ih (target :: keys)
        rw [hopsOver]
        cases hsteps : hopsOver tables (target :: keys) with
        | nil => exact .singleton _
        | cons next hops =>
          have hnext : (hopsOver tables (target :: keys))[0]? = some next := by
            rw [hsteps, List.getElem?_cons_zero]
          obtain ⟨-, hsource, -⟩ := getElem?_hopsOver.1 hnext
          rw [hsteps] at hrest
          exact .cons_cons (Option.some.inj hsource) hrest

theorem getElem?_hops {i : Nat} :
    path.hops[i]? = some hop ↔
      path.joinTables[i]? = some hop.table ∧ path.joinIds[i]? = some hop.source ∧
        path.joinIds[i + 1]? = some hop.target :=
  getElem?_hopsOver

theorem steps_eq_ok : path.steps field = .ok (hop, hops) ↔ path.hops = hop :: hops := by
  unfold steps
  split
  next hnil => simp [hnil]
  next first rest hcons => simp [hcons]

/-- The first step starts from the first key. -/
theorem head?_joinIds (h : path.hops = hop :: hops) : path.joinIds.head? = some hop.source := by
  have hfirst : path.hops[0]? = some hop := by rw [h, List.getElem?_cons_zero]
  rw [List.head?_eq_getElem?]
  exact (getElem?_hops.1 hfirst).2.1

end ExpandedPath

/-! ## Expansion -/

namespace DomainPath

variable (path : DomainPath) (s : Settings)

/-- A path read from its end is the reversed path. -/
theorem expand_true : path.expand s true = (path.expand s false).reverse := by
  simp [expand, ExpandedPath.reverse, List.map_reverse]

/-- The join tables of a path join two of its domains each. -/
theorem exists_of_mem_joinTables {s : Settings} {domains : List String} {table : String}
    (h : table ∈ joinTables s domains) :
    ∃ left ∈ domains, ∃ right ∈ domains, table = s.joinTable left right := by
  fun_induction joinTables s domains with
  | case1 => cases h
  | case2 => cases h
  | case3 d e ds ih =>
    rcases List.mem_cons.1 h with rfl | h
    · exact ⟨d, by simp, e, by simp, rfl⟩
    · obtain ⟨left, hleft, right, hright, rfl⟩ := ih h
      exact ⟨left, List.mem_cons_of_mem _ hleft, right, List.mem_cons_of_mem _ hright, rfl⟩

theorem exists_of_mem_joinTables_expand {path : DomainPath} {s : Settings} {reversed : Bool}
    {table : String} (h : table ∈ (path.expand s reversed).joinTables) :
    ∃ left ∈ path.domains, ∃ right ∈ path.domains, table = s.joinTable left right := by
  cases reversed with
  | false => exact exists_of_mem_joinTables h
  | true => exact exists_of_mem_joinTables (List.mem_reverse.1 h)

/-- The names of one kind in an expansion are those of the path's domains. -/
theorem exists_of_mem_map_domains {path : DomainPath} {reversed : Bool} {name : String → String}
    {found : String}
    (h : found ∈ (if reversed then path.domains.reverse else path.domains).map name) :
    ∃ domain ∈ path.domains, found = name domain := by
  obtain ⟨domain, hdomain, rfl⟩ := List.mem_map.1 h
  refine ⟨domain, ?_, rfl⟩
  split at hdomain
  · exact List.mem_reverse.1 hdomain
  · exact hdomain

theorem length_hops_expand (reversed : Bool) :
    (path.expand s reversed).hops.length = (path.expand s reversed).joinTables.length := by
  have htables := path.length_joinTables_expand s reversed
  have hkeys := path.length_joinIds_expand s reversed
  cases hdomains : path.domains with
  | nil =>
    rw [hdomains] at htables
    have hnil : (path.expand s reversed).joinTables = [] := List.length_eq_zero_iff.1 htables
    unfold ExpandedPath.hops
    rw [hnil]
    rfl
  | cons domain domains =>
    rw [hdomains] at htables hkeys
    refine ExpandedPath.length_hopsOver ?_
    rw [htables, hkeys]
    rfl

theorem length_joinTables_of_hops {path : DomainPath} {s : Settings} {reversed : Bool} {hop : Hop}
    {hops : List Hop} (h : (path.expand s reversed).hops = hop :: hops) :
    (path.expand s reversed).joinTables.length = hops.length + 1 := by
  rw [← length_hops_expand, h, List.length_cons]

/-- A path of at least two domains has a step. -/
theorem exists_hops (reversed : Bool) (h : 2 ≤ path.domains.length) :
    ∃ hop hops, (path.expand s reversed).hops = hop :: hops := by
  have hlength := path.length_hops_expand s reversed
  rw [length_joinTables_expand] at hlength
  cases hhops : (path.expand s reversed).hops with
  | nil =>
    rw [hhops, List.length_nil] at hlength
    omega
  | cons hop hops => exact ⟨hop, hops, rfl⟩

/-- The last step reaches the last key. -/
theorem getLast?_joinIds {path : DomainPath} {s : Settings} {reversed : Bool} {hop : Hop}
    {hops : List Hop} (h : (path.expand s reversed).hops = hop :: hops) :
    (path.expand s reversed).joinIds.getLast? = some (hops.getLastD hop).target := by
  have hlast : (path.expand s reversed).hops[hops.length]? = some (hops.getLastD hop) := by
    rw [h, List.getLastD_eq_getLast?, ← List.getLast?_cons, List.getLast?_eq_getElem?]
    rfl
  have hkeys : (path.expand s reversed).joinIds.length = hops.length + 2 := by
    have htables := length_joinTables_of_hops h
    rw [length_joinTables_expand] at htables
    rw [length_joinIds_expand]
    omega
  obtain ⟨-, -, htarget⟩ := ExpandedPath.getElem?_hops.1 hlast
  rw [List.getLast?_eq_getElem?, hkeys]
  exact htarget

section Ends

variable {path : DomainPath} {first last : String} {between : List String}

theorem head?_domains (h : path.domains = first :: (between ++ [last])) :
    path.domains.head? = some first := by
  rw [h]
  rfl

theorem two_le_length_domains (h : path.domains = first :: (between ++ [last])) :
    2 ≤ path.domains.length := by
  rw [h]
  simp

theorem map_ends (h : path.domains = first :: (between ++ [last])) (name : String → String)
    (reversed : Bool) :
    ((if reversed then path.domains.reverse else path.domains).map name).head? =
        some (name (if reversed then last else first)) ∧
      ((if reversed then path.domains.reverse else path.domains).map name).getLast? =
        some (name (if reversed then first else last)) := by
  have hends (source target : String) (domains : List String) :
      ((source :: (domains ++ [target])).map name).head? = some (name source) ∧
        ((source :: (domains ++ [target])).map name).getLast? = some (name target) := by
    rw [← List.cons_append, List.map_append]
    exact ⟨rfl, List.getLast?_concat⟩
  rw [h]
  cases reversed with
  | false => exact hends first last between
  | true =>
    have hback : (first :: (between ++ [last])).reverse =
        last :: (between.reverse ++ [first]) := by simp
    rw [if_pos rfl, hback]
    exact hends last first between.reverse

/-- The keys at the ends of a path are those of the domains at its ends. -/
theorem joinIds_ends (h : path.domains = first :: (between ++ [last])) (s : Settings)
    (reversed : Bool) :
    (path.expand s reversed).joinIds.head? = some (s.joinId (if reversed then last else first)) ∧
      (path.expand s reversed).joinIds.getLast? =
        some (s.joinId (if reversed then first else last)) :=
  map_ends h s.joinId reversed

/-- The tables at the ends of a path are those of the domains at its ends. -/
theorem tables_ends (h : path.domains = first :: (between ++ [last])) (s : Settings)
    (reversed : Bool) :
    (path.expand s reversed).tables.head? = some (s.table (if reversed then last else first)) ∧
      (path.expand s reversed).tables.getLast? =
        some (s.table (if reversed then first else last)) :=
  map_ends h s.table reversed

end Ends

end DomainPath

/-- From users over their roles to permissions. -/
def usersToPermissions : DomainPath := ⟨["user", "role", "perm"], none, none⟩

end CriteriaSql
