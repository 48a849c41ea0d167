/-
  Domain paths: the domains on the way from one entity to another, and the tables and keys that
  join each of them to the next.
-/
import CriteriaSql.Error
import CriteriaSql.Settings

namespace CriteriaSql

/-- The domains on the way from a source to a target. A path of one domain names the foreign key
    column or the local field by which the domain is reached. -/
structure DomainPath where
  domains : List String
  foreignKey : Option String
  localField : Option String
  deriving DecidableEq, Repr

/-! ## Validity -/

/-- A domain's name: an ASCII letter or underscore, then word characters. -/
def isDomainName (name : String) : Bool :=
  match name.toList with
  | [] => false
  | c :: cs => (c.isAlpha || c == '_') && cs.all Text.isWord

namespace DomainPath

/-- Checks a path of at least `least` domains on a field: its length, then its names, then that a
    path of one domain says how the domain is reached. -/
def validate (path : DomainPath) (field : String) (least : Nat) : Except Error Unit :=
  if path.domains.length < least then
    .error (.invalidDomainPath field (.tooShort least path.domains.length))
  else
    match path.domains.find? (!isDomainName ·) with
    | some domain => .error (.invalidDomainPath field (.badDomain domain))
    | none =>
      if path.domains.length = 1 ∧ path.foreignKey = none ∧ path.localField = none then
        .error (.invalidDomainPath field .noForeignKey)
      else .ok ()

/-! ## Expansion -/

/-- The tables that join each domain to the next. -/
def joinTables (s : Settings) : List String → List String
  | [] => []
  | [_] => []
  | d :: e :: ds => s.joinTable d e :: joinTables s (e :: ds)

end DomainPath

/-- A path in tables and keys: `joinTables` joins each table to the next, and each of the `joinIds`
    is the key by which join tables refer to the table at its place. -/
structure ExpandedPath where
  tables : List String
  joinTables : List String
  joinIds : List String
  deriving DecidableEq, Repr

/-- One step over a join table, from the key of the source to the key of the target. -/
structure Hop where
  table : String
  source : String
  target : String
  deriving DecidableEq, Repr

/-- The path in tables and keys, read from its end where it is reversed. -/
def DomainPath.expand (path : DomainPath) (s : Settings) (reversed : Bool) : ExpandedPath :=
  let domains := if reversed then path.domains.reverse else path.domains
  let joins := joinTables s path.domains
  { tables := domains.map s.table
    joinTables := if reversed then joins.reverse else joins
    joinIds := domains.map s.joinId }

namespace ExpandedPath

/-- The steps over the given join tables between consecutive keys. -/
def hopsOver : List String → List String → List Hop
  | table :: tables, source :: target :: keys =>
    ⟨table, source, target⟩ :: hopsOver tables (target :: keys)
  | _, _ => []

/-- The steps of a path, in order. -/
def hops (path : ExpandedPath) : List Hop := hopsOver path.joinTables path.joinIds

/-- The first step of a path and the steps after it. A path of fewer than two domains has none. -/
def steps (path : ExpandedPath) (field : String) : Except Error (Hop × List Hop) :=
  match path.hops with
  | [] => .error (.noStep field)
  | hop :: hops => .ok (hop, hops)

/-- The table at the end of a path. -/
def targetTable (path : ExpandedPath) : String := path.tables.getLastD ""

end ExpandedPath

namespace DomainPath

theorem length_joinTables (s : Settings) (domains : List String) :
    (joinTables s domains).length = domains.length - 1 := by
  fun_induction joinTables s domains with
  | case1 => rfl
  | case2 => rfl
  | case3 d e ds ih => simp_all

theorem length_tables_expand (path : DomainPath) (s : Settings) (reversed : Bool) :
    (path.expand s reversed).tables.length = path.domains.length := by
  cases reversed <;> simp [expand]

theorem length_joinIds_expand (path : DomainPath) (s : Settings) (reversed : Bool) :
    (path.expand s reversed).joinIds.length = path.domains.length := by
  cases reversed <;> simp [expand]

theorem length_joinTables_expand (path : DomainPath) (s : Settings) (reversed : Bool) :
    (path.expand s reversed).joinTables.length = path.domains.length - 1 := by
  cases reversed <;> simp [expand, length_joinTables]

end DomainPath

theorem ExpandedPath.length_hopsOver {tables keys : List String}
    (h : tables.length + 1 = keys.length) : (hopsOver tables keys).length = tables.length := by
  induction tables generalizing keys with
  | nil => simp [hopsOver]
  | cons table tables ih =>
    cases keys with
    | nil => simp at h
    | cons source keys =>
      cases keys with
      | nil => simp at h
      | cons target keys =>
        have := @ih (target :: keys) (by simpa using h)
        simp [hopsOver, this]

end CriteriaSql
