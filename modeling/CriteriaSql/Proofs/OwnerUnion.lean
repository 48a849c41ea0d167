/-
  Statements for the owners of a relation. The clause of an owner is the same text for all of them
  and binds nothing of the others, so the statement for a list of owners is that for the first of
  them followed by that for the rest. In the clause of one owner the id stands twice: in the column
  for it, and innermost in the condition, compared with the key by which the relation refers to its
  owner.
-/
import CriteriaSql.Proofs.Placeholder.Statements
import CriteriaSql.Proofs.Restriction
import Mathlib

namespace CriteriaSql

open Text (Plain)

variable {s : Settings}

/-! ## Two pieces -/

/-- Where two pieces have no fewer placeholders than arguments and the whole has no more, the texts
    around the pieces have none. -/
theorem Fragment.SplitsInto.of_balanced {t u v : String} {f g : Fragment}
    (hf : f.args.length ≤ f.placeholders) (hg : g.args.length ≤ g.placeholders)
    (h : (ofText t ++ f ++ (ofText u ++ g ++ ofText v)).Balanced) :
    (ofText t ++ f ++ (ofText u ++ g ++ ofText v)).SplitsInto [f, g] := by
  have htotal : Text.countChar '?' t + f.placeholders +
      (Text.countChar '?' u + g.placeholders + Text.countChar '?' v) =
        f.args.length + g.args.length := by
    unfold Balanced at h
    simp only [placeholders_append, args_append, args_ofText, List.nil_append, List.append_nil,
      List.length_append] at h
    exact h
  have hplain {text : String} (hcount : Text.countChar '?' text = 0) : Plain text :=
    Text.plain_iff_countChar.2 hcount
  refine .piece (hplain (by omega)) ?_ (.piece (hplain (by omega)) ?_ (.text (hplain (by omega))))
  · exact Nat.le_antisymm (by omega) hf
  · exact Nat.le_antisymm (by omega) hg

/-! ## Innermost conditions -/

/-- A condition that has the given one innermost: the condition itself, or a column that equals, or
    is among, what a query under such a condition selects. -/
inductive Fragment.Innermost (base : Fragment) : Fragment → Prop
  | base : Innermost base base
  | equals (column select table : String) {f : Fragment} (h : Innermost base f) :
      Innermost base (column ++ " = (" ++
        ("SELECT " ++ select ++ " FROM " ++ table ++ " WHERE " ++ f) ++ ")")
  | among (column select table : String) {f : Fragment} (h : Innermost base f) :
      Innermost base (column ++ " IN (" ++
        ("SELECT " ++ select ++ " FROM " ++ table ++ " WHERE " ++ f) ++ ")")

theorem Fragment.Innermost.exists_around {base f : Fragment} (h : Innermost base f) :
    ∃ before behind : String, f = before ++ base ++ behind := by
  induction h with
  | base => exact ⟨"", "", congrArg₂ Fragment.mk (by simp) (by simp)⟩
  | equals column select table _ ih =>
    obtain ⟨before, behind, rfl⟩ := ih
    refine ⟨column ++ " = (SELECT " ++ select ++ " FROM " ++ table ++ " WHERE " ++ before,
      behind ++ ")", congrArg₂ Fragment.mk (String.toList_inj.1 ?_) ?_⟩
    · simp
    · simp
  | among column select table _ ih =>
    obtain ⟨before, behind, rfl⟩ := ih
    refine ⟨column ++ " IN (SELECT " ++ select ++ " FROM " ++ table ++ " WHERE " ++ before,
      behind ++ ")", congrArg₂ Fragment.mk (String.toList_inj.1 ?_) ?_⟩
    · simp
    · simp

/-- The innermost condition of a path is that on its first step. -/
theorem Condition.innermost_pathQuery {base condition : Fragment}
    (h : Fragment.Innermost base condition) (column : String) (hop : Hop) (hops : List Hop) :
    Fragment.Innermost base (column ++ " IN (" ++ pathQuery condition hop hops ++ ")") := by
  induction hops generalizing condition hop with
  | nil => exact .among column hop.target hop.table h
  | cons next hops ih =>
    rw [pathQuery_cons]
    exact ih (.among next.source hop.target hop.table h) next

namespace Related

variable {owner joined : RecordType} {field columns ownerTable : String} {relation : Relation}

/-! ## The clause of an owner -/

/-- The owner's id in the column for it. -/
def keyArgument (id : Scalar) : Fragment := Fragment.argument id ++ " AS " ++ keyColumn

/-- The key by which a relation refers to its owner: the owner's id where the owner refers to one
    entity, the foreign key where many refer to the owner, and over several domains the key of the
    one from which the path is read. -/
def ownerKey (s : Settings) (ownerTable : String) (relation : Relation) : Option String :=
  match relation.path.domains with
  | [] => none
  | [_] =>
    match relation.cardinality with
    | .one => some "id"
    | .many => relation.path.foreignKey
  | first :: _ => (relation.path.expand s (readsFromEnd s ownerTable first)).joinIds.head?

theorem ownerKey_of_domain {domain : String} (h : relation.path.domains = [domain]) :
    ownerKey s ownerTable relation =
      match relation.cardinality with
      | .one => some "id"
      | .many => relation.path.foreignKey := by
  unfold ownerKey
  rw [h]

theorem ownerKey_of_domains {first second : String} {rest : List String}
    (h : relation.path.domains = first :: second :: rest) :
    ownerKey s ownerTable relation =
      (relation.path.expand s (readsFromEnd s ownerTable first)).joinIds.head? := by
  unfold ownerKey
  rw [h]

/-- A clause with the owner's id in the column for it and, innermost in its condition, compared with
    the key. -/
def Binds (key : String) (id : Scalar) (clause : Fragment) : Prop :=
  ∃ (columns target : String) (condition : Fragment),
    Fragment.Innermost (columnEquals key id) condition ∧
      clause = "SELECT " ++ keyArgument id ++ ", " ++ columns ++ " FROM " ++ target ++ " WHERE " ++
        condition

theorem head_eq (columns : String) (id : Scalar) :
    head columns id = "SELECT " ++ keyArgument id ++ ", " ++ columns := by
  simp only [head, keyArgument, Fragment.append_assoc]

/-- The owner refers to one entity. -/
theorem binds_directClause_one (s : Settings) (columns ownerTable domain foreignKey : String)
    (id : Scalar) :
    Binds "id" id (directClause s columns ownerTable domain foreignKey .one id) := by
  refine ⟨columns, s.table domain, _, .equals "id" foreignKey ownerTable .base, ?_⟩
  refine congrArg₂ Fragment.mk (String.toList_inj.1 ?_) ?_
  · simp [head, keyArgument, columnEquals]
  · simp [head, keyArgument, columnEquals]

/-- Many entities refer to the owner. -/
theorem binds_directClause_many (s : Settings) (columns ownerTable domain foreignKey : String)
    (id : Scalar) :
    Binds foreignKey id (directClause s columns ownerTable domain foreignKey .many id) := by
  refine ⟨columns, s.table domain, _, .base, ?_⟩
  rw [← head_eq]
  rfl

theorem binds_joinedClause (columns target : String) (hop : Hop) (hops : List Hop) (id : Scalar) :
    Binds hop.source id (joinedClause columns target hop hops id) := by
  refine ⟨columns, target, _, Condition.innermost_pathQuery .base "id" hop hops, ?_⟩
  refine congrArg₂ Fragment.mk (String.toList_inj.1 ?_) ?_
  · simp [head, keyArgument]
  · simp [head, keyArgument]

/-- The clause of a relation compares the owner's id with the key of the relation. -/
theorem binds_relationClause {clause : ByOwner}
    (h : relationClause s field columns ownerTable relation = .ok clause) :
    ∃ key, ownerKey s ownerTable relation = some key ∧ ∀ id, Binds key id (clause id) := by
  unfold relationClause at h
  split at h
  · cases h
  next domain hdomain =>
    rw [ownerKey_of_domain hdomain]
    split at h
    next foreignKey hkey =>
      cases h
      cases relation.cardinality with
      | one => exact ⟨"id", rfl, binds_directClause_one s columns ownerTable domain foreignKey⟩
      | many =>
        exact ⟨foreignKey, hkey, binds_directClause_many s columns ownerTable domain foreignKey⟩
    · cases h
  next first rest hlong hdomains =>
    obtain ⟨⟨hop, hops⟩, hsteps, h⟩ := bind_eq_ok.1 h
    cases h
    rw [ExpandedPath.steps_eq_ok] at hsteps
    refine ⟨hop.source, ?_, binds_joinedClause columns _ hop hops⟩
    have hhead := ExpandedPath.head?_joinIds hsteps
    cases rest with
    | nil => exact (hlong rfl).elim
    | cons second rest => exact (ownerKey_of_domains hdomains).trans hhead

/-! ## Placeholders of a clause -/

theorem length_args_keyArgument (id : Scalar) :
    (keyArgument id).args.length ≤ (keyArgument id).placeholders := by
  have hid : (Fragment.argument id).placeholders = 1 := Fragment.balanced_argument id
  rw [keyArgument, Fragment.placeholders_append, Fragment.placeholders_append, hid, Nat.add_assoc]
  exact Nat.le_add_right 1 _

theorem length_args_columnEquals (key : String) (id : Scalar) :
    (columnEquals key id).args.length ≤ (columnEquals key id).placeholders := by
  have hid : (Fragment.argument id).placeholders = 1 := Fragment.balanced_argument id
  rw [columnEquals, Fragment.placeholders_append, hid]
  exact Nat.le_add_left 1 _

/-- A clause with as many placeholders as arguments has them in the column for the owner's id and in
    the comparison with the key. -/
theorem Binds.splitsInto {key : String} {id : Scalar} {clause : Fragment} (h : Binds key id clause)
    (hbalanced : clause.Balanced) :
    clause.SplitsInto [keyArgument id, columnEquals key id] := by
  obtain ⟨columns, target, condition, hinnermost, rfl⟩ := h
  obtain ⟨before, behind, rfl⟩ := hinnermost.exists_around
  have hsplit : ("SELECT " ++ keyArgument id ++ ", " ++ columns ++ " FROM " ++ target ++
      " WHERE " ++ (before ++ columnEquals key id ++ behind) : Fragment) =
        Fragment.ofText "SELECT " ++ keyArgument id ++
          (Fragment.ofText (", " ++ columns ++ " FROM " ++ target ++ " WHERE " ++ before) ++
            columnEquals key id ++ Fragment.ofText behind) := by
    refine congrArg₂ Fragment.mk (String.toList_inj.1 ?_) ?_
    · simp
    · simp
  rw [hsplit] at hbalanced ⊢
  exact .of_balanced (length_args_keyArgument id) (length_args_columnEquals key id) hbalanced

theorem splitsInto_restrict (hd : s.dialect.Frames) {page : Page} {order : Option String}
    (ho : ∀ body ∈ order, Plain body) {cs ps : List Fragment} (hc : ∀ c ∈ cs, c.Balanced)
    {clause : Fragment} (h : clause.SplitsInto ps) :
    (restrict s page order cs clause).SplitsInto (ps ++ cs) := by
  have hall := h.append (Fragment.SplitsInto.concat_map " AND " (by decide) hc)
  have hsort := plain_optionalClause " ORDER BY " (by decide) ho
  have hcut := page.splitsInto_cut hd (hall.append_text hsort)
  unfold restrict
  dsimp only
  split
  · exact (hcut.text_append (by decide)).append_text (by decide)
  · exact hcut

/-! ## Statements with or without a query -/

/-- The filter that a query is to the clauses of a relation. -/
def filterOf (s : Settings) : Option Query → Except Error (Option Filter)
  | none => .ok none
  | some q => do
    let schema ← q.schema s
    let record ← q.record
    pure (some ⟨schema, record, q.page⟩)

/-- The arguments of the conditions that a query adds to the clause of each owner. -/
def queryArgs (s : Settings) : Option Query → Except Error (List Scalar)
  | none => .ok []
  | some q => q.conditionArgs s

theorem filterOf_some {q : Query} {filter : Option Filter} :
    filterOf s (some q) = .ok filter ↔
      ∃ schema, q.schema s = .ok schema ∧ ∃ record, q.record = .ok record ∧
        some ⟨schema, record, q.page⟩ = filter := by
  simp only [filterOf, bind_eq_ok, pure_eq_ok]

end Related

/-- The related entities of the owners with the given ids, or those of them that a query
    describes. -/
def RecordType.relatedTo (owner joined : RecordType) (s : Settings) (field : String)
    (query : Option Query) (ids : List Scalar) : Except Error (Option Statement) :=
  match query with
  | none => owner.related joined s field ids
  | some q => owner.relatedWhere joined s q field ids

/-- The key by which a relation field refers to its owner. -/
def RecordType.ownerKey (owner : RecordType) (s : Settings) (field : String) :
    Except Error (Option String) := do
  let schema ← owner.asEntity s
  let relation ← schema.relation field
  let table ← schema.table.render .empty
  pure (Related.ownerKey s table relation)

namespace RecordType

variable {owner joined : RecordType} {field : String} {query : Option Query}

theorem relatedTo_eq_ok {ids : List Scalar} (hids : ids ≠ []) {result : Option Statement} :
    owner.relatedTo joined s field query ids = .ok result ↔
      ∃ filter, Related.filterOf s query = .ok filter ∧
        ∃ clause, Related.ownerClause s owner joined field filter = .ok clause ∧
        some (Related.union clause ids) = result := by
  have hstatement (filter : Option Related.Filter) :
      Related.statement s owner joined field ids filter = .ok result ↔
        ∃ clause, Related.ownerClause s owner joined field filter = .ok clause ∧
          some (Related.union clause ids) = result := by
    rw [Related.statement_eq_ok]
    simp [hids]
  cases query with
  | none => simp [relatedTo, related, Related.filterOf, hstatement]
  | some q =>
    simp only [relatedTo, relatedWhere_eq_ok, Related.filterOf_some, hstatement]
    constructor
    · rintro ⟨schema, hschema, record, hrecord, hclause⟩
      exact ⟨_, ⟨schema, hschema, record, hrecord, rfl⟩, hclause⟩
    · rintro ⟨_, ⟨schema, hschema, record, hrecord, rfl⟩, hclause⟩
      exact ⟨schema, hschema, record, hrecord, hclause⟩

/-- The statement for two lists of owners is that for the first, then that for the second. -/
theorem relatedTo_append {xs ys : List Scalar} (hx : xs ≠ []) (hy : ys ≠ [])
    {result : Option Statement} :
    owner.relatedTo joined s field query (xs ++ ys) = .ok result ↔
      ∃ f g, owner.relatedTo joined s field query xs = .ok (some f) ∧
        owner.relatedTo joined s field query ys = .ok (some g) ∧
        some (f ++ " UNION ALL " ++ g) = result := by
  have hxy : xs ++ ys ≠ [] := List.append_ne_nil_of_left_ne_nil hx ys
  have hunion (clause : Related.ByOwner) : Related.union clause (xs ++ ys) =
      Related.union clause xs ++ " UNION ALL " ++ Related.union clause ys := by
    unfold Related.union
    rw [List.map_append]
    exact Fragment.joinWith_append (List.map_eq_nil_iff.not.2 hx) (List.map_eq_nil_iff.not.2 hy)
  constructor
  · intro h
    obtain ⟨filter, hfilter, clause, hclause, rfl⟩ := (relatedTo_eq_ok hxy).1 h
    have hfor {ids : List Scalar} (hids : ids ≠ []) :
        owner.relatedTo joined s field query ids = .ok (some (Related.union clause ids)) :=
      (relatedTo_eq_ok hids).2 ⟨filter, hfilter, clause, hclause, rfl⟩
    exact ⟨_, _, hfor hx, hfor hy, by rw [hunion]⟩
  · rintro ⟨f, g, hf, hg, rfl⟩
    obtain ⟨filter, hfilter, clause, hclause, hfx⟩ := (relatedTo_eq_ok hx).1 hf
    obtain ⟨filter', hfilter', clause', hclause', hgy⟩ := (relatedTo_eq_ok hy).1 hg
    -- both statements repeat the same clause
    obtain rfl := ok_unique hfilter hfilter'
    obtain rfl := ok_unique hclause hclause'
    refine (relatedTo_eq_ok hxy).2 ⟨filter, hfilter, clause, hclause, ?_⟩
    rw [hunion, Option.some.inj hfx, Option.some.inj hgy]

/-- What the statement for one owner is made of: the clause of the relation, which binds the owner's
    id, and the conditions and the page of the query, if there is one. -/
structure OwnerStatement (owner joined : RecordType) (s : Settings) (field : String)
    (query : Option Query) (id : Scalar) (f : Statement) (key : String) (args : List Scalar) :
    Prop where
  key_eq : owner.ownerKey s field = .ok (some key)
  queryArgs_eq : Related.queryArgs s query = .ok args
  args_eq : f.args = id :: id :: args
  clause : ∃ clause, Related.Binds key id clause ∧ (query = none → f = clause) ∧
    ∀ q, query = some q → ∃ order conditions,
      f = Related.restrict s q.page order conditions clause
  pieces : s.Plain → s.dialect.Frames → owner.PlainEntity → joined.PlainEntity →
    (∀ q ∈ query, q.type.PlainCriteria) → ∃ conditions : List Fragment,
      conditions.flatMap Fragment.args = args ∧
        f.SplitsInto (Related.keyArgument id :: columnEquals key id :: conditions)

theorem ownerStatement_of_relatedTo {id : Scalar} {result : Option Statement}
    (h : owner.relatedTo joined s field query [id] = .ok result) :
    ∃ f key args, result = some f ∧ owner.OwnerStatement joined s field query id f key args := by
  obtain ⟨filter, hfilter, clause, hclause, rfl⟩ :=
    (relatedTo_eq_ok (List.cons_ne_nil id [])).1 h
  obtain ⟨ownerSchema, howner, relation, hrelation, joinedSchema, hjoined, ownerTable, htable,
    base, hbase, within, hwithin, rfl⟩ := Related.ownerClause_eq_ok.1 hclause
  obtain ⟨key, hkey, hbinds⟩ := Related.binds_relationClause hbase
  have hownerKey : owner.ownerKey s field = .ok (some key) := by
    simp only [ownerKey, bind_eq_ok, pure_eq_ok]
    exact ⟨ownerSchema, howner, relation, hrelation, ownerTable, htable, hkey⟩
  have hargs := Related.args_relationClause hbase id
  have hpieces (hs : s.Plain) (ho : owner.PlainEntity) (hj : joined.PlainEntity) :
      (base id).SplitsInto [Related.keyArgument id, columnEquals key id] := by
    obtain ⟨names, hbuilt⟩ := entitySchema_built howner
    obtain ⟨hdomains, hforeign⟩ := hbuilt.plain_relation ho hrelation
    exact (hbinds id).splitsInto (Related.balanced_relationClause hs
      (Entity.plain_selectList hj hjoined) (Entity.plain_table_of_render ho howner htable)
      hdomains hforeign hbase id)
  cases query with
  | none =>
    cases hfilter
    cases hwithin
    refine ⟨base id, key, [], rfl, hownerKey, rfl, hargs, ?_, ?_⟩
    · exact ⟨base id, hbinds id, fun _ => rfl, fun q hq => by cases hq⟩
    · intro hs _ ho hj _
      exact ⟨[], rfl, hpieces hs ho hj⟩
  | some q =>
    obtain ⟨schema, hschema, record, hrecord, rfl⟩ := Related.filterOf_some.1 hfilter
    obtain ⟨cs, hcs, order, horder, rfl⟩ := Related.filter_apply_eq_ok.1 hwithin
    refine ⟨Related.restrict s q.page order cs (base id), key, cs.flatMap Fragment.args, rfl,
      hownerKey, Query.conditionArgs_of hschema hrecord hcs, ?_, ?_, ?_⟩
    · rw [Related.args_restrict, hargs]
      rfl
    · refine ⟨base id, hbinds id, (fun hq => by cases hq), fun q' hq => ?_⟩
      cases hq
      exact ⟨order, cs, rfl⟩
    · intro hs hd ho hj hq
      obtain ⟨names, hbuilt⟩ := criteriaSchema_built hschema
      have hbalanced : ∀ c ∈ cs, c.Balanced :=
        CriteriaSchema.balanced_conditions hs (fun plan hp => hbuilt.plain_field (hq q rfl) hp) hcs
      exact ⟨cs, rfl, Related.splitsInto_restrict hd
        (fun body hm => Page.plain_orderBy (hm ▸ horder)) hbalanced (hpieces hs ho hj)⟩

/-- A statement for the owners of two lists is built if and only if one is built for each of the
    lists, and it is that for the first list, then that for the second. For one owner the arguments
    are its id twice, bound to the column for the id and to the owner's key in the innermost
    condition of the relation, and then those of the query's conditions. -/
theorem related_unites_owners {xs ys : List Scalar} (hx : xs ≠ []) (hy : ys ≠ []) :
    ((∃ result, owner.relatedTo joined s field query (xs ++ ys) = .ok result) ↔
      (∃ f, owner.relatedTo joined s field query xs = .ok f) ∧
        ∃ g, owner.relatedTo joined s field query ys = .ok g) ∧
    (∀ result, owner.relatedTo joined s field query (xs ++ ys) = .ok result →
      ∃ f g, owner.relatedTo joined s field query xs = .ok (some f) ∧
        owner.relatedTo joined s field query ys = .ok (some g) ∧
        result = some ⟨f.text ++ " UNION ALL " ++ g.text, f.args ++ g.args⟩) ∧
    ∀ id result, owner.relatedTo joined s field query [id] = .ok result →
      ∃ f key args, result = some f ∧
        owner.OwnerStatement joined s field query id f key args := by
  refine ⟨⟨?_, ?_⟩, ?_, fun id result h => ownerStatement_of_relatedTo h⟩
  · rintro ⟨result, h⟩
    obtain ⟨f, g, hf, hg, -⟩ := (relatedTo_append hx hy).1 h
    exact ⟨⟨_, hf⟩, _, hg⟩
  · rintro ⟨⟨f, hf⟩, g, hg⟩
    obtain ⟨filter, hfilter, clause, hclause, rfl⟩ := (relatedTo_eq_ok hx).1 hf
    obtain ⟨filter', hfilter', clause', hclause', rfl⟩ := (relatedTo_eq_ok hy).1 hg
    exact ⟨_, (relatedTo_append hx hy).2 ⟨_, _, hf, hg, rfl⟩⟩
  · intro result h
    obtain ⟨f, g, hf, hg, rfl⟩ := (relatedTo_append hx hy).1 h
    refine ⟨f, g, hf, hg, congrArg some (congrArg₂ Fragment.mk rfl ?_)⟩
    simp

/-- Authors with the books that they wrote together. -/
def authorView : RecordType :=
  ⟨"AuthorView", some ["id", "books"], "t_author", none, none,
    [("books", .relation ⟨⟨["author", "book"], none, none⟩, .many⟩)]⟩

/-- Books. -/
def bookView : RecordType := ⟨"BookView", some ["id", "title"], "t_book", none, none, []⟩

/-- The two latest books from 2020 on. -/
def latestBooks : Query :=
  ⟨⟨"BookQuery", some ["yearGe"], "t_book", none, none, []⟩,
    .record [("yearGe", .int ⟨true, .w64⟩ 2020)], ⟨none, some 2, some "year,desc"⟩⟩

set_option maxRecDepth 20000 in
theorem related_unites_authors :
    [Scalar.int 1, .int 2] ≠ [] ∧ [Scalar.int 3] ≠ [] ∧
      ∃ f g : Statement, authorView.relatedTo bookView .default "books" (some latestBooks)
          [.int 1, .int 2, .int 3] =
            .ok (some ⟨f.text ++ " UNION ALL " ++ g.text, f.args ++ g.args⟩) ∧
        g = ⟨"(SELECT ? AS PK_FOR_JOIN, id, title FROM t_book WHERE id IN (SELECT bookId FROM " ++
          "t_author_and_book WHERE authorId = ?) AND year >= ? ORDER BY year desc " ++
            "LIMIT 2 OFFSET 0)", [.int 3, .int 3, .int 2020]⟩ ∧
        ∃ key args, authorView.OwnerStatement bookView .default "books" (some latestBooks) (.int 3)
          g key args ∧ ∃ conditions, g.SplitsInto
            (Related.keyArgument (.int 3) :: columnEquals key (.int 3) :: conditions) := by
  have hx : [Scalar.int 1, .int 2] ≠ [] := by decide
  have hy : [Scalar.int 3] ≠ [] := by decide
  have hthird : authorView.relatedTo bookView .default "books" (some latestBooks) [.int 3] =
      .ok (some
        ⟨"(SELECT ? AS PK_FOR_JOIN, id, title FROM t_book WHERE id IN (SELECT bookId FROM " ++
          "t_author_and_book WHERE authorId = ?) AND year >= ? ORDER BY year desc " ++
            "LIMIT 2 OFFSET 0)", [.int 3, .int 3, .int 2020]⟩) := by cbv
  -- the clause of the third author is the one for all of them
  obtain ⟨filter, hfilter, clause, hclause, -⟩ := (relatedTo_eq_ok hy).1 hthird
  have hall := (relatedTo_eq_ok (List.append_ne_nil_of_left_ne_nil hx [.int 3])).2
    ⟨filter, hfilter, clause, hclause, rfl⟩
  obtain ⟨-, hunion, hsingle⟩ := related_unites_owners hx hy
  obtain ⟨f, g, -, hg, heq⟩ := hunion _ hall
  rw [heq] at hall
  obtain ⟨g', key, args, hg', howner⟩ := hsingle (.int 3) _ hthird
  have hsame := Option.some.inj (ok_unique hg hthird)
  rw [← Option.some.inj hg', ← hsame] at howner
  have hs : Settings.default.Plain := ⟨by decide, by decide, by decide⟩
  have hauthor : authorView.PlainEntity := by
    refine ⟨by decide, by decide, fun entry hentry => ?_⟩
    rw [List.mem_singleton.1 hentry]
    intro key hkey
    cases hkey
  have hbook : bookView.PlainEntity :=
    ⟨by decide, by decide, fun _ hentry => absurd hentry List.not_mem_nil⟩
  have hquery : ∀ q ∈ some latestBooks, q.type.PlainCriteria := by
    intro q hq
    cases hq
    exact ⟨⟨by decide, by decide, fun _ hentry => absurd hentry List.not_mem_nil⟩, by decide,
      by decide⟩
  obtain ⟨conditions, -, hpieces⟩ :=
    howner.pieces hs (Dialect.frames_builtIn .limitOffset) hauthor hbook hquery
  exact ⟨hx, hy, f, g, hall, hsame, key, args, howner, conditions, hpieces⟩

end RecordType

end CriteriaSql
