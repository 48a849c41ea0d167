/-
  Settings of the builders: whether camel case is mapped, the dialect, and the formats by which a
  domain names its tables and keys. They are read from named variables or installed once.
-/
import CriteriaSql.Dialect
import CriteriaSql.Naming
import CriteriaSql.Text.Quoted

namespace CriteriaSql

/-- What all statements of an application have in common. -/
structure Settings where
  mapCamelCase : Bool
  dialect : Dialect
  tableFormat : String
  joinTableFormat : String
  joinIdFormat : String

namespace Settings

/-! ## Names -/

/-- Camel case stays, pages are cut by `LIMIT`, and the domains `user` and `role` have the tables
    `t_user` and `t_role`, the join table `t_user_and_role` and the keys `userId` and `roleId`. -/
def default : Settings where
  mapCamelCase := false
  dialect := .builtIn .limitOffset
  tableFormat := "t_\x7b\x7d"
  joinTableFormat := "t_\x7b\x7d_and_\x7b\x7d"
  joinIdFormat := "\x7b\x7dId"

/-- The table of a domain. -/
def table (s : Settings) (domain : String) : String := Naming.fill s.tableFormat [domain]

/-- The table that joins two domains. -/
def joinTable (s : Settings) (left right : String) : String :=
  Naming.fill s.joinTableFormat [left, right]

/-- The key by which join tables refer to a domain. -/
def joinId (s : Settings) (domain : String) : String := Naming.fill s.joinIdFormat [domain]

/-! ## Checks -/

/-- A format has as many slots as there are names to fill in. -/
def checkFormat (format : String) (expected : Nat) : Except Error Unit :=
  if Naming.slots format = expected then .ok () else .error (.invalidFormat format expected)

/-- Checks the formats; the first one that is wrong is the error. -/
def validate (s : Settings) : Except Error Unit := do
  checkFormat s.tableFormat 1
  checkFormat s.joinTableFormat 2
  checkFormat s.joinIdFormat 1

/-! ## Variables -/

/-- The variables that settings are read from. -/
inductive Variable
  | dialect
  | mapCamelCase
  | tableFormat
  | joinTableFormat
  | joinIdFormat
  deriving DecidableEq, Repr

/-- The name of a variable within the names of its application. -/
def Variable.name : Variable → String
  | dialect => "DIALECT"
  | mapCamelCase => "MAP_CAMEL_CASE"
  | tableFormat => "TABLE_FORMAT"
  | joinTableFormat => "JOIN_TABLE_FORMAT"
  | joinIdFormat => "JOIN_ID_FORMAT"

/-- The dialect that a variable names; the default where it names none. -/
def dialectOf (value : Option String) : DialectKind :=
  match value.map DialectKind.ofName with
  | some (.ok kind) => kind
  | _ => .limitOffset

/-- Reads settings from variables. An unknown dialect and a truth value that is not `true` count as
    missing, a wrong format is an error. -/
def ofVariables (value : Variable → Option String) : Except Error Settings := do
  let settings : Settings :=
    { mapCamelCase := value .mapCamelCase == some "true"
      dialect := .builtIn (dialectOf (value .dialect))
      tableFormat := (value .tableFormat).getD default.tableFormat
      joinTableFormat := (value .joinTableFormat).getD default.joinTableFormat
      joinIdFormat := (value .joinIdFormat).getD default.joinIdFormat }
  settings.validate
  pure settings

/-! ## Installation -/

/-- Installs settings for all that follows. Only the first ones can be installed. -/
def install (installed : Option Settings) (s : Settings) : Except Error Settings := do
  s.validate
  match installed with
  | some _ => .error .configAlreadyInstalled
  | none => .ok s

/-- The installed settings. Asking for them installs the default ones where there are none. -/
def global (installed : Option Settings) : Settings := installed.getD default

/-! ## Text -/

/-- The settings as they are shown to a developer; a dialect has no text. -/
def text (s : Settings) : String :=
  "SqlConfig \x7b map_camel_case: " ++ (if s.mapCamelCase then "true" else "false") ++
    ", table_format: " ++ Text.quoted s.tableFormat ++
    ", join_table_format: " ++ Text.quoted s.joinTableFormat ++
    ", join_id_format: " ++ Text.quoted s.joinIdFormat ++ ", .. \x7d"

end Settings

end CriteriaSql
