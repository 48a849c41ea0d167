/-
  Dialects: how a database cuts a page out of a statement. Only a SELECT can leave rows out at the
  start; any other statement is merely limited.
-/
import CriteriaSql.Error
import CriteriaSql.Text.Blank

namespace CriteriaSql

/-- The built-in dialects. -/
inductive DialectKind
  | limitOffset
  | offsetFetch
  deriving DecidableEq, Repr

namespace DialectKind

/-- The name of a built-in dialect. -/
def label : DialectKind → String
  | limitOffset => "limit_offset"
  | offsetFetch => "offset_fetch"

/-- Reads the name of a dialect or of a database, without regard to ASCII case and to blanks around
    it. -/
def ofName (name : String) : Except Error DialectKind :=
  let key := String.ofList ((Text.trimChars name.toList).map Char.toLower)
  if key ∈ ["limit_offset", "mysql", "postgres", "sqlite"] then .ok limitOffset
  else if key ∈ ["offset_fetch", "sqlserver", "oracle"] then .ok offsetFetch
  else .error (.unknownDialect name)

/-- A page clause behind a statement. -/
def page (kind : DialectKind) (sql : String) (limit : UInt32) (offset : UInt64) : String :=
  let isSelect := "SELECT".toList.isPrefixOf sql.toList
  let limit := toString limit.toNat
  let offset := toString offset.toNat
  match kind, isSelect with
  | limitOffset, true => sql ++ " LIMIT " ++ limit ++ " OFFSET " ++ offset
  | limitOffset, false => sql ++ " LIMIT " ++ limit
  | offsetFetch, true =>
    sql ++ " OFFSET " ++ offset ++ " ROWS FETCH NEXT " ++ limit ++ " ROWS ONLY"
  | offsetFetch, false => sql ++ " FETCH FIRST " ++ limit ++ " ROWS ONLY"

theorem ofName_label (kind : DialectKind) : ofName kind.label = .ok kind := by
  cases kind <;> rfl

end DialectKind

/-- A dialect: a built-in one, or any way to put a limit and an offset to a statement. -/
inductive Dialect
  | builtIn (kind : DialectKind)
  | custom (page : String → UInt32 → UInt64 → String)

/-- Cuts a page out of a statement. -/
def Dialect.page : Dialect → String → UInt32 → UInt64 → String
  | builtIn kind => kind.page
  | custom page => page

end CriteriaSql
