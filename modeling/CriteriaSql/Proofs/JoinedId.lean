/-
  The column by which a relation finds its entities. Where the condition of a relation compares the
  joined entity's identity, it compares the column `id`; the statements that find one entity by its
  id compare the column of the id that the type declares. The two are the same column exactly where
  the id is the field `id` (`related_by_id_iff`), since no other name is mapped to that column.
-/
import CriteriaSql.Proofs.Name.Column
import CriteriaSql.Proofs.OwnerUnion
import CriteriaSql.Proofs.Path.Reachability
import Mathlib

namespace CriteriaSql

/-! ## Unions over a column -/

namespace Related

variable {before behind : ByOwner} {column column' : String} {owners : List Scalar}

theorem union_cons_cons (clause : ByOwner) (first second : Scalar) (owners : List Scalar) :
    union clause (first :: second :: owners) =
      clause first ++ " UNION ALL " ++ union clause (second :: owners) := rfl

/-- Each owner of a union adds the length of the column once. -/
theorem length_union (before behind : ByOwner) (column : String) (owners : List Scalar) :
    (union (fun owner => before owner ++ column ++ behind owner) owners).text.length =
      (union (fun owner => before owner ++ behind owner) owners).text.length +
        owners.length * column.length := by
  induction owners with
  | nil => simp [union, Fragment.joinWith]
  | cons first owners ih =>
    cases owners with
    | nil =>
      simp only [union, List.map_cons, List.map_nil, Fragment.joinWith, Fragment.text_append,
        Fragment.text_ofText, String.length_append, List.length_cons, List.length_nil]
      omega
    | cons second owners =>
      rw [union_cons_cons, union_cons_cons]
      simp only [Fragment.text_append, Fragment.text_ofText, String.length_append, ih,
        List.length_cons, Nat.succ_mul]
      omega

theorem exists_rest (clause : ByOwner) (first : Scalar) (owners : List Scalar) :
    ∃ rest : Fragment, union clause (first :: owners) = clause first ++ rest := by
  cases owners with
  | nil => exact ⟨Fragment.ofText "", (Fragment.append_ofText_empty _).symm⟩
  | cons second owners => exact ⟨_, Fragment.append_assoc _ _ _⟩

/-- A union tells the column that its clauses are over. -/
theorem union_column_inj (howners : owners ≠ []) :
    union (fun owner => before owner ++ column ++ behind owner) owners =
        union (fun owner => before owner ++ column' ++ behind owner) owners ↔
      column = column' := by
  constructor
  · intro h
    have hlength : column.length = column'.length := by
      have htotal := congrArg (fun f : Fragment => f.text.length) h
      simp only [length_union, Nat.add_left_cancel_iff] at htotal
      exact Nat.eq_of_mul_eq_mul_left (List.length_pos_iff.2 howners) htotal
    obtain ⟨first, others, rfl⟩ := List.exists_cons_of_ne_nil howners
    obtain ⟨rest, hrest⟩ :=
      exists_rest (fun owner => before owner ++ column ++ behind owner) first others
    obtain ⟨rest', hrest'⟩ :=
      exists_rest (fun owner => before owner ++ column' ++ behind owner) first others
    rw [hrest, hrest'] at h
    have htext := congrArg (fun f : Fragment => f.text.toList) h
    simp only [Fragment.text_append, Fragment.text_ofText, String.toList_append,
      List.append_assoc, List.append_cancel_left_eq] at htext
    have hcolumns : column.toList.length = column'.toList.length := by
      rw [String.length_toList, String.length_toList, hlength]
    exact String.toList_inj.1 (List.append_inj_left htext hcolumns)
  · rintro rfl
    rfl

end Related

/-! ## Relations -/

/-- The clause of a relation whose condition compares the joined entity's identity, with the column
    that it is compared in. A relation over one domain to many entities compares no identity. -/
def Relation.findsBy (relation : Relation) (s : Settings) (columns ownerTable column : String) :
    Option Related.ByOwner :=
  match relation.path.domains, relation.cardinality with
  | [], _ => none
  | [_], .many => none
  | [domain], .one =>
    relation.path.foreignKey.map fun key owner =>
      Related.head columns owner ++ " FROM " ++ s.table domain ++ " WHERE " ++ column ++
        (" = (SELECT " ++ key ++ " FROM " ++ ownerTable ++ " WHERE id = " ++
          Fragment.argument owner ++ ")")
  | first :: _, _ =>
    let expanded := relation.path.expand s (Related.readsFromEnd s ownerTable first)
    match expanded.hops with
    | [] => none
    | hop :: hops => some fun owner =>
      Related.head columns owner ++ " FROM " ++ expanded.targetTable ++ " WHERE " ++ column ++
        (" IN (" ++ Condition.pathQuery (columnEquals hop.source owner) hop hops ++ ")")

/-- The condition of the relation compares the joined entity's identity. -/
def Relation.ComparesId (relation : Relation) : Prop :=
  2 ≤ relation.path.domains.length ∨ relation.cardinality = .one

section Relations

variable {owner joined : RecordType} {s : Settings} {field : String} {schema : EntitySchema}
  {relation : Relation} {joinedSchema : EntitySchema} {id : IdPlan} {owners : List Scalar}
  {f : Statement}

/-- The clause of a relation is over the column `id`; what stands around the column does not depend
    on it. -/
theorem Related.relationClause_eq_findsBy {columns ownerTable : String} {clause : ByOwner}
    (hcompares : relation.ComparesId)
    (h : relationClause s field columns ownerTable relation = .ok clause) :
    ∃ before behind : ByOwner,
      (∀ column, relation.findsBy s columns ownerTable column =
        some fun owner => before owner ++ column ++ behind owner) ∧
      clause = fun owner => before owner ++ "id" ++ behind owner := by
  unfold relationClause at h
  unfold Relation.findsBy
  split at h
  · cases h
  next domain hone =>
    have hcardinality : relation.cardinality = .one := by
      refine hcompares.resolve_left fun hlong => ?_
      rw [hone, List.length_singleton] at hlong
      omega
    split at h
    next key hkey =>
      cases h
      rw [hone, hkey, hcardinality]
      refine ⟨_, _, fun column => rfl, ?_⟩
      funext owner
      simp only [directClause, Fragment.append_assoc]
      rfl
    · cases h
  next first rest hne hdomains =>
    obtain ⟨⟨hop, hops⟩, hsteps, hclause⟩ := bind_eq_ok.1 h
    cases hclause
    rw [ExpandedPath.steps_eq_ok] at hsteps
    rw [hdomains]
    cases rest with
    | nil => exact absurd rfl hne
    | cons second rest =>
      simp only [hsteps]
      refine ⟨_, _, fun column => rfl, ?_⟩
      funext owner
      simp only [joinedClause, Fragment.append_assoc]
      rfl

/-- The statement of a relation that compares the joined entity's identity compares the column `id`;
    the statements that delete or select the entity by its id compare the column of the declared id.
    The statement of the relation is over that column as well exactly where the id is the field
    `id`. -/
theorem related_by_id_iff (howner : owner.asEntity s = .ok schema)
    (hrelation : schema.relation field = .ok relation) (hcompares : relation.ComparesId)
    (hjoined : joined.asEntity s = .ok joinedSchema) (hid : joinedSchema.id = some id)
    (h : owner.related joined s field owners = .ok (some f)) :
    (∃ ownerTable, schema.table.render .empty = .ok ownerTable ∧
      ∃ literal declared,
        relation.findsBy s joinedSchema.selectList ownerTable "id" = some literal ∧
        f = Related.union literal owners ∧
        relation.findsBy s joinedSchema.selectList ownerTable id.column = some declared ∧
        (f = Related.union declared owners ↔ id.name = "id")) ∧
    (∀ key g, joined.deleteById s key = .ok g →
      ∃ table, g = "DELETE" ++ Rows.sql ⟨table, [], [columnEquals id.column key.value]⟩) ∧
    ∀ key columns g, joined.selectById s key columns = .ok g →
      ∃ table list,
        g = "SELECT " ++ list ++ Rows.sql ⟨table, [], [columnEquals id.column key.value]⟩ := by
  have hcolumn : joinedSchema.idColumn = id.column := by
    rw [EntitySchema.idColumn, hid]
    rfl
  refine ⟨?_, fun key g hg => ?_, fun key columns g hg => ?_⟩
  · obtain ⟨-, hnone⟩ | ⟨howners, clause, hclause, hf⟩ := Related.statement_eq_ok.1 h
    · cases hnone
    cases hf
    obtain ⟨schema', howner', relation', hrelation', joinedSchema', hjoined', ownerTable, htable,
      base, hbase, within, hwithin, rfl⟩ := Related.ownerClause_eq_ok.1 hclause
    obtain rfl := ok_unique howner howner'
    obtain rfl := ok_unique hrelation hrelation'
    obtain rfl := ok_unique hjoined hjoined'
    cases hwithin
    obtain ⟨before, behind, hfinds, rfl⟩ := Related.relationClause_eq_findsBy hcompares hbase
    refine ⟨ownerTable, htable, _, _, hfinds "id", rfl, hfinds id.column, ?_⟩
    obtain ⟨names, hbuilt⟩ := RecordType.entitySchema_built hjoined
    have hresolve := hbuilt.id
    rw [hid] at hresolve
    have hname : id.column = "id" ↔ id.name = "id" := by
      rw [(EntitySchema.resolveId_spec hresolve).2]
      exact Naming.column_eq_id_iff
    rw [← hname, eq_comm (a := id.column)]
    exact Related.union_column_inj howners
  · obtain ⟨schema', hschema', -, -, table, -, rfl⟩ := RecordType.deleteById_eq_ok.1 hg
    obtain rfl := ok_unique hjoined hschema'
    exact ⟨table, by rw [hcolumn]⟩
  · obtain ⟨schema', hschema', -, -, table, -, rfl⟩ := RecordType.selectById_eq_ok.1 hg
    obtain rfl := ok_unique hjoined hschema'
    exact ⟨table, _, by rw [hcolumn]⟩

end Relations

open RecordType (authorView bookView)

set_option maxRecDepth 20000 in
theorem related_by_id_books :
    ∃ schema bookSchema id relation f, authorView.asEntity .default = .ok schema ∧
      schema.relation "books" = .ok relation ∧ relation.ComparesId ∧
      bookView.asEntity .default = .ok bookSchema ∧ bookSchema.id = some id ∧
      id.name = "id" ∧ authorView.related bookView .default "books" [.int 1] = .ok (some f) ∧
      ∃ declared, relation.findsBy .default bookSchema.selectList "t_author" id.column =
          some declared ∧ f = Related.union declared [.int 1] := by
  obtain ⟨schema, howner, relation, hrelation, hcompares, htable⟩ :
      ∃ schema, authorView.asEntity .default = .ok schema ∧
        ∃ relation, schema.relation "books" = .ok relation ∧ relation.ComparesId ∧
          schema.table.render .empty = .ok "t_author" :=
    ⟨_, by cbv, _, by cbv, Or.inl (by decide), by cbv⟩
  obtain ⟨bookSchema, hbooks, id, hid, hname⟩ :
      ∃ bookSchema, bookView.asEntity .default = .ok bookSchema ∧
        ∃ id, bookSchema.id = some id ∧ id.name = "id" := ⟨_, by cbv, _, by cbv, rfl⟩
  obtain ⟨f, hf⟩ : ∃ f, authorView.related bookView .default "books" [.int 1] = .ok (some f) :=
    ⟨_, by cbv⟩
  obtain ⟨⟨ownerTable, hrender, _, declared, -, -, hdeclared, hiff⟩, -⟩ :=
    related_by_id_iff howner hrelation hcompares hbooks hid hf
  rw [ok_unique htable hrender]
  exact ⟨schema, bookSchema, id, relation, f, howner, hrelation, hcompares, hbooks, hid, hname, hf,
    declared, hdeclared, hiff.2 hname⟩

/-- Books that are known by their ISBN. -/
def isbnView : RecordType :=
  ⟨"BookView", some ["isbn", "title"], "t_book", none, none, [("isbn", .id)]⟩

set_option maxRecDepth 20000 in
/-- One and the same type is found by `id` through a relation and by its own id otherwise. -/
theorem related_isbnView :
    authorView.related isbnView .default "books" [.int 1] =
        .ok (some ⟨"SELECT ? AS PK_FOR_JOIN, isbn, title FROM t_book WHERE id IN " ++
          "(SELECT bookId FROM t_author_and_book WHERE authorId = ?)", [.int 1, .int 1]⟩) ∧
      isbnView.selectById .default (.plain (.int 1)) [] =
        .ok ⟨"SELECT isbn, title FROM t_book WHERE isbn = ?", [.int 1]⟩ ∧
      isbnView.deleteById .default (.plain (.int 1)) =
        .ok ⟨"DELETE FROM t_book WHERE isbn = ?", [.int 1]⟩ := by
  refine ⟨?_, ?_, ?_⟩ <;> cbv

end CriteriaSql
