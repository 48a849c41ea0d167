/-
  Paths read from either end. A join table is named for two neighbours of a path in the order of the
  declaration, and it stays between them where the path is read from its end: the join tables are
  reversed with the tables and the keys, and their names are not formatted anew. What is written for
  a domain is its name as it is, between the texts that valid formats have around their slots
  (`expand_reversed`).
-/
import CriteriaSql.Proofs.Name.Format
import CriteriaSql.Proofs.Path.Steps
import Mathlib

namespace CriteriaSql

variable {s : Settings}

/-! ## Names -/

namespace Settings

open Naming (Around)

theorem checkFormat_eq_ok {format : String} {expected : Nat} :
    checkFormat format expected = .ok () ↔ Naming.slots format = expected := by
  unfold checkFormat
  split
  next h => exact iff_of_true rfl h
  next h => exact iff_of_false nofun h

theorem validate_eq_ok :
    s.validate = .ok () ↔ Naming.slots s.tableFormat = 1 ∧ Naming.slots s.joinTableFormat = 2 ∧
      Naming.slots s.joinIdFormat = 1 := by
  simp only [validate, bind_eq_ok]
  constructor
  · rintro ⟨_, htable, _, hjoin, hkey⟩
    exact ⟨checkFormat_eq_ok.1 htable, checkFormat_eq_ok.1 hjoin, checkFormat_eq_ok.1 hkey⟩
  · rintro ⟨htable, hjoin, hkey⟩
    exact ⟨(), checkFormat_eq_ok.2 htable, (), checkFormat_eq_ok.2 hjoin, checkFormat_eq_ok.2 hkey⟩

/-- The texts around the slots of the formats of settings. -/
structure Affixes where
  table : String × String
  joinTable : String × String × String
  joinId : String × String
  deriving DecidableEq, Repr

/-- The formats are these texts around slots, and the names of domains are written once each, as
    they are and in order, between the texts of their format. -/
structure WritesBetween (s : Settings) (a : Affixes) : Prop where
  table_around : Around s.tableFormat [a.table.1, a.table.2]
  joinTable_around : Around s.joinTableFormat [a.joinTable.1, a.joinTable.2.1, a.joinTable.2.2]
  joinId_around : Around s.joinIdFormat [a.joinId.1, a.joinId.2]
  table_eq : ∀ domain, s.table domain = a.table.1 ++ domain ++ a.table.2
  joinTable_eq : ∀ left right,
    s.joinTable left right = a.joinTable.1 ++ left ++ a.joinTable.2.1 ++ right ++ a.joinTable.2.2
  joinId_eq : ∀ domain, s.joinId domain = a.joinId.1 ++ domain ++ a.joinId.2

/-- Settings are valid exactly if their formats write each name once. -/
theorem validate_iff_writes : s.validate = .ok () ↔ ∃ a, s.WritesBetween a := by
  rw [validate_eq_ok, Naming.slots_eq_one_iff, Naming.slots_eq_two_iff, Naming.slots_eq_one_iff]
  constructor
  · rintro ⟨⟨tb, ta, htable, htables⟩, ⟨jb, jm, ja, hjoin, hjoins⟩, kb, ka, hkey, hkeys⟩
    exact ⟨⟨(tb, ta), (jb, jm, ja), (kb, ka)⟩, htable, hjoin, hkey, htables, hjoins, hkeys⟩
  · rintro ⟨a, htable, hjoin, hkey, htables, hjoins, hkeys⟩
    exact ⟨⟨_, _, htable, htables⟩, ⟨_, _, _, hjoin, hjoins⟩, _, _, hkey, hkeys⟩

end Settings

/-! ## Neighbours -/

namespace DomainPath

variable {path : DomainPath}

/-- The join table at a place is that of the domains at this place and the next one. -/
theorem getElem?_joinTables {domains : List String} {i : Nat} {left right : String}
    (hleft : domains[i]? = some left) (hright : domains[i + 1]? = some right) :
    (joinTables s domains)[i]? = some (s.joinTable left right) := by
  induction domains generalizing i with
  | nil => cases hleft
  | cons first domains ih =>
    cases domains with
    | nil => cases hright
    | cons second domains =>
      rw [joinTables]
      cases i with
      | zero =>
        cases hleft
        cases hright
        rfl
      | succ i => exact ih hleft hright

/-- The place in the declaration of the first of the two domains that join table `i` joins. -/
def declaredPlace (path : DomainPath) (reversed : Bool) (i : Nat) : Nat :=
  if reversed then path.domains.length - 2 - i else i

/-- Join table `i` is named for two neighbours of the declaration, in its order. The tables and the
    keys at `i` and `i + 1` are theirs, in the order in which the path is read. -/
def JoinsNeighbours (path : DomainPath) (s : Settings) (reversed : Bool) (i : Nat) : Prop :=
  ∃ left right, path.domains[path.declaredPlace reversed i]? = some left ∧
    path.domains[path.declaredPlace reversed i + 1]? = some right ∧
    (path.expand s reversed).joinTables[i]? = some (s.joinTable left right) ∧
    (path.expand s reversed).tables[i]? = some (s.table (if reversed then right else left)) ∧
    (path.expand s reversed).tables[i + 1]? = some (s.table (if reversed then left else right)) ∧
    (path.expand s reversed).joinIds[i]? = some (s.joinId (if reversed then right else left)) ∧
    (path.expand s reversed).joinIds[i + 1]? = some (s.joinId (if reversed then left else right))

theorem joinsNeighbours_declared {i : Nat} (hi : i + 1 < path.domains.length) :
    path.JoinsNeighbours s false i := by
  have hleft : path.domains[i]? = some path.domains[i] := List.getElem?_eq_getElem (by omega)
  have hright : path.domains[i + 1]? = some path.domains[i + 1] := List.getElem?_eq_getElem hi
  have hnames (name : String → String) {place : Nat} {domain : String}
      (hdomain : path.domains[place]? = some domain) :
      (path.domains.map name)[place]? = some (name domain) := by
    rw [List.getElem?_map, hdomain, Option.map_some]
  exact ⟨_, _, hleft, hright, getElem?_joinTables hleft hright, hnames s.table hleft,
    hnames s.table hright, hnames s.joinId hleft, hnames s.joinId hright⟩

/-- In a list that is read from its end, a name stands as far from the start as it stood from the
    end. -/
theorem getElem?_reverse_of_add {names : List String} {i j : Nat} {name : String}
    (hplaces : i + j + 1 = names.length) (hname : names[j]? = some name) :
    names.reverse[i]? = some name := by
  rw [List.getElem?_reverse (by omega), ← hname]
  congr 1
  omega

theorem joinsNeighbours_reversed {i : Nat} (hi : i + 1 < path.domains.length) :
    path.JoinsNeighbours s true i := by
  have hplace : path.domains.length - 2 - i + 1 < path.domains.length := by omega
  obtain ⟨left, right, hleft, hright, hjoin, htable, htable', hkey, hkey'⟩ :=
    joinsNeighbours_declared (s := s) hplace
  have hjoins := path.length_joinTables_expand s false
  have htables := path.length_tables_expand s false
  have hkeys := path.length_joinIds_expand s false
  refine ⟨left, right, hleft, hright, ?_⟩
  rw [expand_true]
  -- the second domain of the declaration is read first
  exact ⟨getElem?_reverse_of_add (by omega) hjoin, getElem?_reverse_of_add (by omega) htable',
    getElem?_reverse_of_add (by omega) htable, getElem?_reverse_of_add (by omega) hkey',
    getElem?_reverse_of_add (by omega) hkey⟩

/-- A path that is read from its end is the path with each of its lists reversed. However it is
    read, each join table is named, in the order of the declaration, for the two domains whose
    tables and keys stand beside it. Settings are valid if and only if each format is texts without
    a slot around as many slots as there are names; then every name is written once, as it is and in
    order, between these texts. -/
theorem expand_reversed (path : DomainPath) (s : Settings) :
    path.expand s true = (path.expand s false).reverse ∧
    (∀ reversed i, i < (path.expand s reversed).joinTables.length →
      path.JoinsNeighbours s reversed i) ∧
    (s.validate = .ok () ↔ ∃ a, s.WritesBetween a) := by
  refine ⟨path.expand_true s, fun reversed i hi => ?_, Settings.validate_iff_writes⟩
  rw [length_joinTables_expand] at hi
  have hneighbours : i + 1 < path.domains.length := by omega
  cases reversed with
  | false => exact joinsNeighbours_declared hneighbours
  | true => exact joinsNeighbours_reversed hneighbours

theorem expand_reversed_permissions :
    usersToPermissions.expand .default true =
        ⟨["t_perm", "t_role", "t_user"], ["t_role_and_perm", "t_user_and_role"],
          ["permId", "roleId", "userId"]⟩ ∧
      usersToPermissions.expand .default true = (usersToPermissions.expand .default false).reverse ∧
      usersToPermissions.JoinsNeighbours .default true 1 ∧
      Settings.default.validate = .ok () ∧ ∃ a, Settings.default.WritesBetween a := by
  have hexpanded : usersToPermissions.expand .default true =
      ⟨["t_perm", "t_role", "t_user"], ["t_role_and_perm", "t_user_and_role"],
        ["permId", "roleId", "userId"]⟩ := by cbv
  have hplace : 1 < (usersToPermissions.expand .default true).joinTables.length := by
    rw [hexpanded]
    decide
  have hvalid : Settings.default.validate = .ok () := by cbv
  obtain ⟨hreverse, hjoins, hwrites⟩ := expand_reversed usersToPermissions .default
  exact ⟨hexpanded, hreverse, hjoins true 1 hplace, hvalid, hwrites.1 hvalid⟩

end DomainPath

end CriteriaSql
