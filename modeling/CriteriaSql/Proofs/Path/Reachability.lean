/-
  What a path filter selects. Its text is a condition with nested queries; read over the contents of
  the join tables it holds of an id if and only if a chain of rows, one in each join table of the
  path, leads there from one of the values that are bound (`domainPath_selects_linked`). The chains
  of a path that is read from its end are those of the path backwards, and the nested queries are
  those by which a relation over the path finds the entities of an owner.
-/
import CriteriaSql.Proofs.Assembly
import CriteriaSql.Proofs.Path.Steps
import CriteriaSql.Proofs.Placeholder.Declarations
import Mathlib

namespace CriteriaSql

/-! ## Tables -/

/-- A row has a value in each of its columns. Values are compared as they are; that a database
    finds null equal to nothing is left out. -/
abbrev Row := String → Scalar

/-- The rows of each table. -/
abbrev Tables := String → Set Row

/-! ## Chains of rows -/

/-- A chain of rows, one in each join table of the path: the row in join table `i` has the value
    `keys i` in key column `i` and the value `keys (i + 1)` in the key column after it. -/
def ExpandedPath.Links (path : ExpandedPath) (db : Tables) (x y : Scalar) : Prop :=
  ∃ keys : Nat → Scalar, keys 0 = x ∧ keys path.joinTables.length = y ∧
    ∀ i table source target, path.joinTables[i]? = some table → path.joinIds[i]? = some source →
      path.joinIds[i + 1]? = some target →
      ∃ row ∈ db table, row source = keys i ∧ row target = keys (i + 1)

/-- A row of the step's table leads from the one key to the other. -/
def Hop.Links (hop : Hop) (db : Tables) (x y : Scalar) : Prop :=
  ∃ row ∈ db hop.table, row hop.source = x ∧ row hop.target = y

/-- A chain of rows, one for each step. -/
def Linked (db : Tables) : List Hop → Scalar → Scalar → Prop
  | [], x, y => x = y
  | hop :: hops, x, y => ∃ z, hop.Links db x z ∧ Linked db hops z y

theorem linked_iff_exists_keys {db : Tables} {hops : List Hop} {x y : Scalar} :
    Linked db hops x y ↔
      ∃ keys : Nat → Scalar, keys 0 = x ∧ keys hops.length = y ∧
        ∀ (i : Nat) (hop : Hop), hops[i]? = some hop → hop.Links db (keys i) (keys (i + 1)) := by
  induction hops generalizing x with
  | nil =>
    constructor
    · rintro rfl
      exact ⟨fun _ => x, rfl, rfl, fun i hop hi => by simp at hi⟩
    · rintro ⟨keys, rfl, rfl, -⟩
      rfl
  | cons hop hops ih =>
    constructor
    · rintro ⟨z, hfirst, hrest⟩
      obtain ⟨keys, rfl, hy, hkeys⟩ := ih.1 hrest
      -- the first key in front of those of the rest
      refine ⟨fun i => Nat.casesOn i x keys, rfl, hy, fun i next hi => ?_⟩
      cases i with
      | zero =>
        rw [List.getElem?_cons_zero, Option.some.injEq] at hi
        rw [← hi]
        exact hfirst
      | succ i =>
        rw [List.getElem?_cons_succ] at hi
        exact hkeys i next hi
    · rintro ⟨keys, rfl, hy, hkeys⟩
      have hfirst : hop.Links db (keys 0) (keys 1) := hkeys 0 hop List.getElem?_cons_zero
      refine ⟨keys 1, hfirst, ih.2 ⟨fun i => keys (i + 1), rfl, hy, fun i next hi => ?_⟩⟩
      exact hkeys (i + 1) next (List.getElem?_cons_succ.trans hi)

/-- The chains of a path are the chains of its steps. -/
theorem DomainPath.links_iff_linked {path : DomainPath} {s : Settings} {reversed : Bool}
    {db : Tables} {x y : Scalar} :
    (path.expand s reversed).Links db x y ↔ Linked db (path.expand s reversed).hops x y := by
  rw [linked_iff_exists_keys, length_hops_expand]
  unfold ExpandedPath.Links
  refine exists_congr fun keys => and_congr_right fun _ => and_congr_right fun _ => ?_
  constructor
  · intro h i hop hi
    obtain ⟨htable, hsource, htarget⟩ := ExpandedPath.getElem?_hops.1 hi
    exact h i hop.table hop.source hop.target htable hsource htarget
  · intro h i table source target htable hsource htarget
    exact h i ⟨table, source, target⟩ (ExpandedPath.getElem?_hops.2 ⟨htable, hsource, htarget⟩)

/-! ## Paths read from their ends -/

theorem ExpandedPath.Links.reverse {path : ExpandedPath} {db : Tables} {x y : Scalar}
    (hlength : path.joinTables.length = path.joinIds.length - 1) (h : path.Links db x y) :
    path.reverse.Links db y x := by
  obtain ⟨keys, hx, hy, hkeys⟩ := h
  unfold ExpandedPath.Links ExpandedPath.reverse
  dsimp only
  rw [List.length_reverse]
  -- the same keys, counted from the other end
  refine ⟨fun i => keys (path.joinTables.length - i), by simpa using hy, by simpa using hx, ?_⟩
  intro i table source target htable hsource htarget
  have hi : i < path.joinTables.length := by
    have := (List.getElem?_eq_some_iff.1 htable).1
    rwa [List.length_reverse] at this
  -- step `i` from the one end is step `j` from the other
  obtain ⟨j, hj⟩ := Nat.exists_eq_add_of_lt hi
  rw [List.getElem?_reverse hi] at htable
  rw [List.getElem?_reverse (by omega)] at hsource htarget
  rw [show path.joinTables.length - 1 - i = j by omega] at htable
  rw [show path.joinIds.length - 1 - i = j + 1 by omega] at hsource
  rw [show path.joinIds.length - 1 - (i + 1) = j by omega] at htarget
  obtain ⟨row, hrow, hback, hforth⟩ := hkeys j table target source htable htarget hsource
  refine ⟨row, hrow, ?_, ?_⟩
  · exact hforth.trans (congrArg keys (by omega))
  · exact hback.trans (congrArg keys (by omega))

/-- The chains of a path that is read from its end are those of the path backwards. -/
theorem DomainPath.links_expand_true {path : DomainPath} {s : Settings} {db : Tables}
    {x y : Scalar} : (path.expand s true).Links db x y ↔ (path.expand s false).Links db y x := by
  have hlength : (path.expand s false).joinTables.length =
      (path.expand s false).joinIds.length - 1 := by
    rw [length_joinTables_expand, length_joinIds_expand]
  rw [expand_true]
  constructor
  · intro h
    have hback := h.reverse (by simpa [ExpandedPath.reverse] using hlength)
    simpa [ExpandedPath.reverse] using hback
  · exact fun h => h.reverse hlength

/-! ## Conditions on rows -/

/-- A condition on a row in the form in which path filters write it. -/
inductive RowTest
  /-- The column has the value. -/
  | equals (column : String) (value : Scalar)
  /-- The column has one of the values. -/
  | oneOf (column : String) (values : List Scalar)
  /-- The column has the value that a row of the table under a condition has in another column. -/
  | selected (column select table : String) (test : RowTest)

namespace RowTest

/-- The condition in SQL. -/
def sql : RowTest → Fragment
  | equals column value => column ++ " = " ++ Fragment.argument value
  | oneOf column values => column ++ " IN " ++ Fragment.argumentList values
  | selected column select table test =>
    column ++ " IN (" ++ ("SELECT " ++ select ++ " FROM " ++ table ++ " WHERE " ++ test.sql) ++ ")"

/-- Whether the condition holds of a row, given the contents of the tables. -/
def Holds (db : Tables) : RowTest → Row → Prop
  | equals column value, row => row column = value
  | oneOf column values, row => row column ∈ values
  | selected column select table test, row =>
    ∃ found ∈ db table, test.Holds db found ∧ found select = row column

/-! ## Steps as conditions -/

/-- The condition that a column has a value that the steps reach from rows under a condition. -/
def reached (column : String) (test : RowTest) (hop : Hop) : List Hop → RowTest
  | [] => selected column hop.target hop.table test
  | next :: hops => reached column (selected next.source hop.target hop.table test) next hops

/-- In SQL the steps are nested queries. -/
theorem sql_reached (column : String) (test : RowTest) (hop : Hop) (hops : List Hop) :
    (reached column test hop hops).sql =
      column ++ " IN (" ++ Condition.pathQuery test.sql hop hops ++ ")" := by
  induction hops generalizing test hop with
  | nil => rfl
  | cons next hops ih =>
    rw [reached, ih, Condition.pathQuery_cons]
    rfl

/-- A column has a value that the steps reach if and only if a chain of rows leads to it. -/
theorem holds_reached {db : Tables} {test : RowTest} {hop : Hop} (start : Scalar → Prop)
    (h : ∀ row, test.Holds db row ↔ start (row hop.source)) (column : String) (hops : List Hop)
    (row : Row) :
    (reached column test hop hops).Holds db row ↔
      ∃ x, start x ∧ Linked db (hop :: hops) x (row column) := by
  induction hops generalizing test hop start with
  | nil =>
    constructor
    · rintro ⟨found, hfound, htest, hcolumn⟩
      exact ⟨_, (h found).1 htest, _, ⟨found, hfound, rfl, rfl⟩, hcolumn⟩
    · rintro ⟨x, hx, z, ⟨found, hfound, rfl, rfl⟩, hcolumn⟩
      exact ⟨found, hfound, (h found).2 hx, hcolumn⟩
  | cons next hops ih =>
    -- the next step starts from the keys that this one reaches
    have hnext (row : Row) : (selected next.source hop.target hop.table test).Holds db row ↔
        ∃ x, start x ∧ hop.Links db x (row next.source) := by
      constructor
      · rintro ⟨found, hfound, htest, hsource⟩
        exact ⟨_, (h found).1 htest, found, hfound, rfl, hsource⟩
      · rintro ⟨x, hx, found, hfound, rfl, hsource⟩
        exact ⟨found, hfound, (h found).2 hx, hsource⟩
    rw [reached, ih (fun y => ∃ x, start x ∧ hop.Links db x y) hnext]
    constructor
    · rintro ⟨y, ⟨x, hx, hfirst⟩, hrest⟩
      exact ⟨x, hx, y, hfirst, hrest⟩
    · rintro ⟨x, hx, y, hfirst, hrest⟩
      exact ⟨y, ⟨x, hx, hfirst⟩, hrest⟩

/-! ## Readings -/

/-- A condition whose names hold no blank. -/
def Unbroken : RowTest → Prop
  | equals column _ => ' ' ∉ column.toList
  | oneOf column _ => ' ' ∉ column.toList
  | selected column select table test =>
    ' ' ∉ column.toList ∧ ' ' ∉ select.toList ∧ ' ' ∉ table.toList ∧ test.Unbroken

/-- Where a blank follows a name without blanks, the name ends at the first blank. -/
theorem append_blank_inj {name name' rest rest' : String} (h : ' ' ∉ name.toList)
    (h' : ' ' ∉ name'.toList) (heq : name ++ (" " ++ rest) = name' ++ (" " ++ rest')) :
    name = name' ∧ rest = rest' := by
  have hword {word tail : String} (hword : ' ' ∉ word.toList) :
      (word ++ (" " ++ tail)).toList.takeWhile (· ≠ ' ') = word.toList := by
    rw [String.toList_append, List.takeWhile_append_of_pos]
    · simp
    · intro c hc
      simpa using fun hblank : c = ' ' => hword (hblank ▸ hc)
  have hname : name = name' := by
    rw [← String.toList_inj, ← hword h, heq, hword h']
  rw [hname, String.append_right_inj, String.append_right_inj] at heq
  exact ⟨hname, heq⟩

theorem notMem_placeholderList (n : Nat) : 'S' ∉ (Fragment.placeholderList n).toList := by
  have hlist : 'S' ∉ (", ".intercalate (List.replicate n "?")).toList := by
    refine Text.notMem_intercalate (by decide) fun t ht => ?_
    rw [List.eq_of_mem_replicate ht]
    decide
  unfold Fragment.placeholderList
  split
  · decide
  · simpa using hlist

/-- The column that a condition is on. -/
def column : RowTest → String
  | equals column _ => column
  | oneOf column _ => column
  | selected column _ _ _ => column

/-- What follows the column of a condition and a blank. -/
def rest : RowTest → String
  | equals _ _ => "= ?"
  | oneOf _ values => "IN " ++ Fragment.placeholderList values.length
  | selected _ select table test =>
    "IN (SELECT " ++ (select ++ (" " ++ ("FROM " ++ (table ++ (" " ++ ("WHERE " ++
      (test.sql.text ++ ")")))))))

theorem text_sql (test : RowTest) : test.sql.text = test.column ++ (" " ++ test.rest) := by
  cases test <;> rw [← String.toList_inj] <;>
    simp [sql, RowTest.column, rest, Fragment.argument, Fragment.argumentList]

section Forms

variable {column column' select table : String} {value : Scalar} {values : List Scalar}
  {test : RowTest}

theorem rest_equals_ne_oneOf : (equals column value).rest ≠ (oneOf column' values).rest := by
  intro h
  have hfirst := congrArg (fun text => text.toList.head?) h
  simp [rest] at hfirst

theorem rest_equals_ne_selected :
    (equals column value).rest ≠ (selected column' select table test).rest := by
  intro h
  have hfirst := congrArg (fun text => text.toList.head?) h
  simp [rest] at hfirst

theorem rest_oneOf_ne_selected :
    (oneOf column values).rest ≠ (selected column' select table test).rest := by
  intro h
  have hselect : 'S' ∈ (oneOf column values).rest.toList := by
    rw [h]
    simp [rest]
  simp [rest, notMem_placeholderList] at hselect

end Forms

theorem column_rest_eq {test test' : RowTest} (h : test.Unbroken) (h' : test'.Unbroken)
    (heq : test.sql = test'.sql) : test.column = test'.column ∧ test.rest = test'.rest := by
  have hcolumn {test : RowTest} (h : test.Unbroken) : ' ' ∉ test.column.toList := by
    cases test with
    | equals column value => exact h
    | oneOf column values => exact h
    | selected column select table test => exact h.1
  refine append_blank_inj (hcolumn h) (hcolumn h') ?_
  rw [← text_sql, ← text_sql, heq]

/-- The text of a condition without blanks in its names has no other reading. -/
theorem eq_of_sql_eq {test test' : RowTest} (h : test.Unbroken) (h' : test'.Unbroken)
    (heq : test.sql = test'.sql) : test = test' := by
  induction test generalizing test' with
  | equals column value =>
    obtain ⟨hcolumn, hrest⟩ := column_rest_eq h h' heq
    cases test' with
    | equals column' value' =>
      have hargs : [value] = [value'] := congrArg Fragment.args heq
      rw [show column = column' from hcolumn, List.head_eq_of_cons_eq hargs]
    | oneOf => exact absurd hrest rest_equals_ne_oneOf
    | selected => exact absurd hrest rest_equals_ne_selected
  | oneOf column values =>
    obtain ⟨hcolumn, hrest⟩ := column_rest_eq h h' heq
    cases test' with
    | equals => exact absurd hrest.symm rest_equals_ne_oneOf
    | oneOf column' values' =>
      have hargs : values = values' := congrArg Fragment.args heq
      rw [show column = column' from hcolumn, hargs]
    | selected => exact absurd hrest rest_oneOf_ne_selected
  | selected column select table test ih =>
    obtain ⟨hcolumn, hrest⟩ := column_rest_eq h h' heq
    cases test' with
    | equals => exact absurd hrest.symm rest_equals_ne_selected
    | oneOf => exact absurd hrest.symm rest_oneOf_ne_selected
    | selected column' select' table' test' =>
      obtain ⟨-, hselect, htable, htest⟩ := h
      obtain ⟨-, hselect', htable', htest'⟩ := h'
      -- the names end at their first blanks, the inner condition before the last parenthesis
      rw [rest, rest, String.append_right_inj] at hrest
      obtain ⟨hselects, hfrom⟩ := append_blank_inj hselect hselect' hrest
      rw [String.append_right_inj] at hfrom
      obtain ⟨htables, hwhere⟩ := append_blank_inj htable htable' hfrom
      rw [String.append_right_inj, String.append_left_inj] at hwhere
      have hargs : test.sql.args = test'.sql.args := by
        simpa [sql] using congrArg Fragment.args heq
      have hsql : test.sql = test'.sql := congrArg₂ Fragment.mk hwhere hargs
      rw [show column = column' from hcolumn, hselects, htables, ih htest htest' hsql]

theorem unbroken_reached {column : String} {test : RowTest} {hop : Hop} {hops : List Hop}
    (hcolumn : ' ' ∉ column.toList) (htest : test.Unbroken)
    (hhops : ∀ step ∈ hop :: hops, ' ' ∉ step.table.toList ∧ ' ' ∉ step.source.toList ∧
      ' ' ∉ step.target.toList) : (reached column test hop hops).Unbroken := by
  induction hops generalizing test hop with
  | nil =>
    obtain ⟨htable, -, htarget⟩ := hhops hop List.mem_cons_self
    exact ⟨hcolumn, htarget, htable, htest⟩
  | cons next hops ih =>
    obtain ⟨htable, -, htarget⟩ := hhops hop List.mem_cons_self
    have hnext := hhops next (List.mem_cons_of_mem _ List.mem_cons_self)
    rw [reached]
    refine ih ⟨hnext.2.1, htarget, htable, htest⟩ fun step hstep => ?_
    exact hhops step (List.mem_cons_of_mem _ hstep)

end RowTest

/-! ## Path filters -/

/-- The values that a path filter binds: the one that a key has to equal, or the items of which it
    has to be one. -/
inductive Operand.Bounds (x : Operand) : Operator → List Scalar → Prop
  | equal {bound : Scalar} (hvalue : x.value.isCompound = false) (hbound : x.bind = .ok bound) :
      Bounds x .eq [bound]
  | oneOf {items : List FieldValue} {bounds : List Scalar} (hvalue : x.value = .list items)
      (hbounds : x.bindItems items = .ok bounds) : Bounds x .oneOf bounds

/-- A single value is compared by an equation. -/
theorem Operand.compare_eq {x : Operand} {bound : Scalar} (hvalue : x.value.isCompound = false)
    (hbound : x.bind = .ok bound) (column : String) :
    x.compare column .eq = .ok (some (columnEquals column bound)) := by
  unfold compare
  rw [hvalue, hbound]
  rfl

theorem Operand.Bounds.exists_test {x : Operand} {op : Operator} {bounds : List Scalar}
    (h : x.Bounds op bounds) (column : String) :
    ∃ test : RowTest, x.compare column op = .ok (some test.sql) ∧
      (∀ db row, test.Holds db row ↔ row column ∈ bounds) ∧
      (' ' ∉ column.toList → test.Unbroken) := by
  cases h with
  | @equal bound hvalue hbound =>
    refine ⟨.equals column bound, ?_, fun db row => ?_, id⟩
    · exact Operand.compare_eq hvalue hbound column
    · exact List.mem_singleton.symm
  | @oneOf items _ hvalue hbounds =>
    refine ⟨.oneOf column bounds, ?_, fun db row => Iff.rfl, id⟩
    unfold Operand.compare
    rw [hvalue]
    cases items with
    | nil =>
      cases hbounds
      rfl
    | cons item items =>
      dsimp only
      rw [hbounds]
      rfl

section PathFilter

variable {x : Operand} {s : Settings} {path : DomainPath} {op : Operator} {hop : Hop}
  {hops : List Hop}

/-- A path filter compares the key from which the first step starts. -/
theorem Condition.domainPath_eq_map
    (hhops : (path.expand s (readsFromEnd path x.field)).hops = hop :: hops) :
    domainPath x s path op = (x.compare hop.source op).map
      (Option.map fun f => "id IN (" ++ pathQuery f hop hops ++ ")") := by
  have hhead := ExpandedPath.head?_joinIds hhops
  unfold domainPath
  dsimp only
  split
  next hnil =>
    rw [hnil] at hhead
    cases hhead
  next key keys hkeys =>
    rw [hkeys, List.head?_cons, Option.some.injEq] at hhead
    rw [hhead, ExpandedPath.steps_eq_ok.2 hhops]
    cases x.compare hop.source op with
    | error e => rfl
    | ok found => cases found <;> rfl

theorem Condition.domainPath_of_hops {f : Fragment}
    (hhops : (path.expand s (readsFromEnd path x.field)).hops = hop :: hops)
    (hf : x.compare hop.source op = .ok (some f)) :
    domainPath x s path op = .ok (some ("id IN (" ++ pathQuery f hop hops ++ ")")) := by
  rw [domainPath_eq_map hhops, hf]
  rfl

theorem Related.relationClause_of_hops {relation : Relation} {ownerTable first : String}
    (field columns : String) (hfirst : relation.path.domains.head? = some first)
    (hlong : 2 ≤ relation.path.domains.length)
    (hhops : (relation.path.expand s (readsFromEnd s ownerTable first)).hops = hop :: hops) :
    relationClause s field columns ownerTable relation =
      .ok (joinedClause columns
        (relation.path.expand s (readsFromEnd s ownerTable first)).targetTable hop hops) := by
  unfold relationClause
  split
  next hnil =>
    rw [hnil] at hlong
    simp at hlong
  next domain hone =>
    rw [hone] at hlong
    simp at hlong
  next domain domains _ hdomains =>
    rw [hdomains, List.head?_cons, Option.some.injEq] at hfirst
    rw [hfirst]
    exact bind_eq_ok.2 ⟨(hop, hops), ExpandedPath.steps_eq_ok.2 hhops, rfl⟩

/-- A path filter is a condition that holds of a row if and only if a chain of rows, one in each
    join table of the path, leads from one of the bound values to the row's id; without blanks in
    the names of the path its text has no other reading. The chains of a path that is read from its
    end are those of the path backwards. A relation over the path, read in the same direction, finds
    the entities of an owner by the query in which the filter for a single value looks for ids. -/
theorem domainPath_selects_linked {bounds : List Scalar} (hpath : 2 ≤ path.domains.length)
    (hx : x.Bounds op bounds) :
    let expanded := path.expand s (Condition.readsFromEnd path x.field)
    ∃ test : RowTest,
      Condition.domainPath x s path op = .ok (some test.sql) ∧
      (∀ db row, test.Holds db row ↔ ∃ bound ∈ bounds, expanded.Links db bound (row "id")) ∧
      ((∀ name ∈ expanded.joinTables ++ expanded.joinIds, ' ' ∉ name.toList) →
        ∀ other : RowTest, other.Unbroken → other.sql = test.sql → other = test) ∧
      (∀ db a b, (path.expand s true).Links db a b ↔ (path.expand s false).Links db b a) ∧
      (op = .eq → ∃ ids : Scalar → Fragment,
        (∀ bound ∈ bounds, test.sql = "id IN (" ++ ids bound ++ ")") ∧
        ∀ relation : Relation, relation.path = path →
          ∀ first field columns ownerTable, path.domains.head? = some first →
          Related.readsFromEnd s ownerTable first = Condition.readsFromEnd path x.field →
          Related.relationClause s field columns ownerTable relation =
            .ok fun owner => Related.head columns owner ++ " FROM " ++ expanded.targetTable ++
              " WHERE id IN (" ++ ids owner ++ ")") := by
  intro expanded
  obtain ⟨hop, hops, hhops⟩ := path.exists_hops s (Condition.readsFromEnd path x.field) hpath
  obtain ⟨test, htest, hholds, hunbroken⟩ := hx.exists_test hop.source
  refine ⟨.reached "id" test hop hops, ?_, fun db row => ?_, fun hnames other hother hsql => ?_,
    fun db a b => DomainPath.links_expand_true, ?_⟩
  · rw [RowTest.sql_reached, Condition.domainPath_of_hops hhops htest]
    rfl
  · rw [RowTest.holds_reached (· ∈ bounds) (hholds db), ← hhops]
    exact exists_congr fun bound => and_congr_right fun _ => DomainPath.links_iff_linked.symm
  · have hsteps : ∀ step ∈ hop :: hops, ' ' ∉ step.table.toList ∧ ' ' ∉ step.source.toList ∧
        ' ' ∉ step.target.toList := by
      intro step hstep
      rw [← hhops] at hstep
      obtain ⟨htable, hsource, htarget⟩ := ExpandedPath.mem_hopsOver hstep
      exact ⟨hnames _ (List.mem_append_left _ htable), hnames _ (List.mem_append_right _ hsource),
        hnames _ (List.mem_append_right _ htarget)⟩
    have hstart := hunbroken (hsteps hop List.mem_cons_self).2.1
    exact RowTest.eq_of_sql_eq hother (RowTest.unbroken_reached (by decide) hstart hsteps) hsql
  · rintro rfl
    refine ⟨fun owner => Condition.pathQuery (columnEquals hop.source owner) hop hops, ?_, ?_⟩
    · cases hx with
      | @equal single hvalue hsingle =>
        intro bound hbound
        have htext : test.sql = columnEquals hop.source bound := by
          rw [List.mem_singleton.1 hbound]
          exact Option.some.inj (ok_unique htest (Operand.compare_eq hvalue hsingle hop.source))
        rw [RowTest.sql_reached, htext]
        rfl
    · intro relation hrelation first field columns ownerTable hfirst hdirection
      subst hrelation
      rw [Related.relationClause_of_hops field columns hfirst hpath (hdirection ▸ hhops),
        hdirection]
      rfl

/-- A permission, in a field whose name asks for the last domain of the path. -/
def ofPermission (id : Int) : Operand := ⟨"perm", .ordinal, .scalar (.int id)⟩

set_option maxRecDepth 20000 in
theorem domainPath_selects_ofPermission :
    2 ≤ usersToPermissions.domains.length ∧ (ofPermission 7).Bounds .eq [.int 7] ∧
    ∃ test : RowTest,
      test.sql = ⟨"id IN (SELECT userId FROM t_user_and_role WHERE roleId IN " ++
        "(SELECT roleId FROM t_role_and_perm WHERE permId = ?))", [.int 7]⟩ ∧
      ∀ db row, test.Holds db row ↔ ∃ bound ∈ [Scalar.int 7],
        (usersToPermissions.expand .default true).Links db bound (row "id") := by
  have hlong : 2 ≤ usersToPermissions.domains.length := by decide
  have hbounds : (ofPermission 7).Bounds .eq [.int 7] := .equal rfl rfl
  have hreversed : Condition.readsFromEnd usersToPermissions (ofPermission 7).field = true := by cbv
  have hfilter : Condition.domainPath (ofPermission 7) .default usersToPermissions .eq =
      .ok (some ⟨"id IN (SELECT userId FROM t_user_and_role WHERE roleId IN " ++
        "(SELECT roleId FROM t_role_and_perm WHERE permId = ?))", [.int 7]⟩) := by cbv
  obtain ⟨test, htext, hholds, -⟩ := domainPath_selects_linked (s := .default) hlong hbounds
  rw [hreversed] at hholds
  exact ⟨hlong, hbounds, test, Option.some.inj (ok_unique htext hfilter), hholds⟩

end PathFilter

end CriteriaSql
