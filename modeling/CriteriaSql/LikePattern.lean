/-
  Patterns of the LIKE operator that find a given text anywhere. The wildcards of the text itself
  are escaped by a backslash.
-/
import CriteriaSql.Text.Blank

namespace CriteriaSql.LikePattern

/-- The characters with a backslash before each wildcard. -/
def escapeChars (cs : List Char) : List Char :=
  cs.flatMap fun c => if c = '%' ∨ c = '_' then ['\\', c] else [c]

/-- The pattern that finds `text` anywhere. A blank text is a pattern of its own. -/
def containing (text : String) : String :=
  if Text.isBlankText text then text
  else String.ofList ('%' :: escapeChars text.toList ++ ['%'])

end CriteriaSql.LikePattern
