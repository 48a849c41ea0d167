/-
  Pieces of SQL: a text, and the arguments of its placeholders in order. Pieces are put together
  text to text and arguments to arguments, so the two stay in step.
-/
import CriteriaSql.Json.Basic
import CriteriaSql.Text.Search

namespace CriteriaSql

/-- SQL text with the arguments that its placeholders stand for, in order. -/
structure Fragment where
  text : String
  args : List Scalar
  deriving DecidableEq, Repr

/-- A complete statement. -/
abbrev Statement := Fragment

namespace Fragment

/-! ## Building -/

/-- Text without arguments. -/
def ofText (text : String) : Fragment := ⟨text, []⟩

instance : Coe String Fragment := ⟨ofText⟩

instance : Append Fragment := ⟨fun f g => ⟨f.text ++ g.text, f.args ++ g.args⟩⟩

/-- Nothing. -/
def empty : Fragment := ofText ""

/-- One placeholder. -/
def argument (arg : Scalar) : Fragment := ⟨"?", [arg]⟩

/-- The pieces one after the other. -/
def concat : List Fragment → Fragment
  | [] => empty
  | f :: fs => f ++ concat fs

/-- The pieces with a text between any two of them. -/
def joinWith (separator : String) : List Fragment → Fragment
  | [] => empty
  | [f] => f
  | f :: g :: fs => f ++ ofText separator ++ joinWith separator (g :: fs)

/-- The piece in parentheses. -/
def parenthesized (f : Fragment) : Fragment := ofText "(" ++ f ++ ofText ")"

/-- A list of so many placeholders; the list of none holds `null`. -/
def placeholderList (size : Nat) : String :=
  if size = 0 then "(null)" else "(" ++ ", ".intercalate (List.replicate size "?") ++ ")"

/-- A list of arguments. -/
def argumentList (args : List Scalar) : Fragment := ⟨placeholderList args.length, args⟩

/-! ## Placeholders -/

/-- The number of placeholders in the text. -/
def placeholders (f : Fragment) : Nat := Text.countChar '?' f.text

/-- As many placeholders as arguments. -/
def Balanced (f : Fragment) : Prop := f.placeholders = f.args.length

@[simp] theorem text_append (f g : Fragment) : (f ++ g).text = f.text ++ g.text := rfl

@[simp] theorem args_append (f g : Fragment) : (f ++ g).args = f.args ++ g.args := rfl

@[simp] theorem text_ofText (text : String) : (ofText text).text = text := rfl

@[simp] theorem args_ofText (text : String) : (ofText text).args = [] := rfl

@[simp] theorem args_argument (arg : Scalar) : (argument arg).args = [arg] := rfl

@[simp] theorem args_argumentList (args : List Scalar) : (argumentList args).args = args := rfl

theorem placeholders_append (f g : Fragment) :
    (f ++ g).placeholders = f.placeholders + g.placeholders :=
  Text.countChar_append '?' f.text g.text

theorem Balanced.append {f g : Fragment} (hf : f.Balanced) (hg : g.Balanced) :
    (f ++ g).Balanced := by
  unfold Balanced at *
  simp [placeholders_append, hf, hg]

theorem balanced_argument (arg : Scalar) : (argument arg).Balanced := by
  simp [Balanced, placeholders, argument, Text.countChar]

theorem args_joinWith (separator : String) (fs : List Fragment) :
    (joinWith separator fs).args = fs.flatMap Fragment.args := by
  fun_induction joinWith separator fs with
  | case1 => rfl
  | case2 f => simp
  | case3 f g fs ih => simp [ih]

end Fragment

end CriteriaSql
