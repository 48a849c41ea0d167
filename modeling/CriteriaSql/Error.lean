/-
  Everything that can go wrong, as causes, with the code and the wording of each. A configuration
  error lies in a declaration; any other lies in the values of one call.
-/
import CriteriaSql.Operator
import CriteriaSql.Value.Basic

namespace CriteriaSql

/-! ## Causes -/

/-- What is wrong with a domain path or with nested queries. -/
inductive PathFault
  | tooShort (least actual : Nat)
  | badDomain (domain : String)
  | noForeignKey
  | noRelationKey
  | noLocalField
  | noLevels
  | placeholderInJoin
  deriving DecidableEq, Repr

/-- What is wrong with a template. -/
inductive TemplateFault
  | unterminated (opener : String)
  | unknownField (field : String)
  deriving DecidableEq, Repr

/-- Why a condition does not accept the shape of a value. -/
inductive ShapeFault
  | needsCollection (op : Operator)
  | needsText (op : Operator)
  | needsSingle (op : Operator)
  | notBindable (why : Unsupported)
  | notInDocuments
  deriving DecidableEq, Repr

/-- The ways in which a statement, a filter or a declaration can be refused. -/
inductive Error
  | notAStruct (typeName : String)
  | unknownField (typeName field : String)
  | invalidDomainPath (field : String) (fault : PathFault)
  | strayGenerated (typeName field : String)
  | invalidTemplate (template : String) (fault : TemplateFault)
  | invalidFormat (format : String) (expected : Nat)
  | configAlreadyInstalled
  | unknownDialect (name : String)
  | valueShape (field : String) (fault : ShapeFault)
  | missingTemplateValue (template field : String)
  | invalidTemplateValue (template field : String)
  | missingId (typeName : String)
  | emptyPatch (typeName : String)
  | invalidSort (segment : String)
  | unknownRelation (typeName field : String)
  | unreadable (typeName message : String)
  /-- A path that leads from no domain to another was to be walked. -/
  | noStep (field : String)
  deriving DecidableEq, Repr

/-! ## Wording -/

/-- What is wrong with a path, in words. -/
def PathFault.reason : PathFault → String
  | tooShort least actual =>
    "expected at least " ++ toString least ++ " domain(s), got " ++ toString actual
  | badDomain domain => "`" ++ domain ++ "` is not a valid domain name"
  | noForeignKey => "single-domain path needs a foreign key column"
  | noRelationKey => "single-domain relation needs a foreign key column"
  | noLocalField => "single-domain lookup needs a local field"
  | noLevels => "nested queries need at least one level"
  | placeholderInJoin => "nested join clauses cannot contain placeholders"

/-- What is wrong with a template, in words. -/
def TemplateFault.reason : TemplateFault → String
  | unterminated opener => "unterminated `" ++ opener ++ "` placeholder"
  | unknownField field => "unknown field `" ++ field ++ "`"

/-- The operator that a message blames. -/
def ShapeFault.operator : ShapeFault → String
  | needsCollection op => op.label
  | needsText op => op.label
  | needsSingle op => op.label
  | notBindable why => "bind(" ++ why.label ++ ")"
  | notInDocuments => "lookup"

/-- What would have been accepted. -/
def ShapeFault.expected : ShapeFault → String
  | needsCollection _ => "a collection"
  | needsText _ => "a string"
  | needsSingle _ => "a single value"
  | notBindable _ => "a scalar, enum, sequence or struct value"
  | notInDocuments => "a condition expressible as a document filter"

namespace Error

/-- The text of an error. -/
def message : Error → String
  | notAStruct typeName =>
    "type `" ++ typeName ++ "` is not a plain struct and cannot be described"
  | unknownField typeName field =>
    "annotation on `" ++ typeName ++ "` references unknown field `" ++ field ++ "`"
  | invalidDomainPath field fault =>
    "invalid domain path on field `" ++ field ++ "`: " ++ fault.reason
  | strayGenerated typeName field =>
    "invalid id declaration on `" ++ typeName ++ "`: `" ++ field ++
      "` is marked generated but is not an id"
  | invalidTemplate template fault =>
    "invalid table template `" ++ template ++ "`: " ++ fault.reason
  | invalidFormat format expected =>
    "invalid naming format `" ++ format ++ "`: expected " ++ toString expected ++
      " `\x7b\x7d` placeholder(s)"
  | configAlreadyInstalled => "global configuration is already installed"
  | unknownDialect name => "unknown dialect `" ++ name ++ "`"
  | valueShape field fault =>
    "field `" ++ field ++ "` with operator " ++ fault.operator ++ " expects " ++ fault.expected
  | missingTemplateValue template field =>
    "table template `" ++ template ++ "` needs a value for `" ++ field ++ "`"
  | invalidTemplateValue template field =>
    "table template `" ++ template ++ "` got a non-identifier value for `" ++ field ++ "`"
  | missingId typeName => "entity `" ++ typeName ++ "` has no id value"
  | emptyPatch typeName => "patch of `" ++ typeName ++ "` has no present field"
  | invalidSort segment => "invalid sort segment: " ++ segment
  | unknownRelation typeName field =>
    "relation field `" ++ field ++ "` is not declared on `" ++ typeName ++ "`"
  | unreadable typeName message => "failed to read `" ++ typeName ++ "`: " ++ message
  | noStep field => "domain path on field `" ++ field ++ "` has no step"

/-- The code by which callers tell errors apart. -/
def code : Error → String
  | notAStruct _ => "NOT_A_STRUCT"
  | unknownField _ _ => "UNKNOWN_FIELD"
  | invalidDomainPath _ _ => "INVALID_DOMAIN_PATH"
  | strayGenerated _ _ => "INVALID_ID"
  | invalidTemplate _ _ => "INVALID_TEMPLATE"
  | invalidFormat _ _ => "INVALID_FORMAT"
  | configAlreadyInstalled => "CONFIG_ALREADY_INSTALLED"
  | unknownDialect _ => "UNKNOWN_DIALECT"
  | valueShape _ _ => "VALUE_SHAPE"
  | missingTemplateValue _ _ => "MISSING_TEMPLATE_VALUE"
  | invalidTemplateValue _ _ => "INVALID_TEMPLATE_VALUE"
  | missingId _ => "MISSING_ID"
  | emptyPatch _ => "EMPTY_PATCH"
  | invalidSort _ => "INVALID_SORT"
  | unknownRelation _ _ => "UNKNOWN_RELATION"
  | unreadable _ _ => "READ_ERROR"
  | noStep _ => "NO_STEP"

/-- Whether the fault lies in a declaration, and so in every call that uses it. -/
def isConfiguration : Error → Bool
  | notAStruct _ | unknownField _ _ | invalidDomainPath _ _ | strayGenerated _ _
  | invalidTemplate _ _ | invalidFormat _ _ | configAlreadyInstalled | unknownDialect _
  | noStep _ => true
  | _ => false

end Error

end CriteriaSql
