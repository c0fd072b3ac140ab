import RecordQuery.Declaration.Attribute

/-!
# Entity declarations

From the description of a type to its entity: the entity's name, its declared
fields, and a constant for each of them. Only structures with named fields can
be declared.
-/

namespace RecordQuery

namespace Declaration

/-- The kinds of type. -/
inductive TypeKind where
  | named
  | positional
  | empty
  | alternatives
  | overlapping
  deriving DecidableEq

/-- A field of a described type. -/
structure FieldDescription where
  name : String
  attributes : List Attribute

/-- A described type. -/
structure TypeDescription where
  name : String
  kind : TypeKind
  attributes : List Attribute
  fields : List FieldDescription

/-- A field name without the mark that lets a keyword be a name. -/
def plainName (name : String) : List Char :=
  match name.toList with
  | 'r' :: '#' :: plain => plain
  | plain => plain

/-- The constant name and the record name of a field, unless it is skipped. -/
def declareField (rule : Option NamingRule) (field : FieldDescription) :
    Except Fault (Option (String × String)) := do
  let options ← fieldOptions field.attributes
  if options.skip then return none
  else
    let plain := plainName field.name
    let recorded :=
      match options.rename, rule with
      | some given, _ => given
      | none, some rule => String.ofList (rule.apply plain)
      | none, none => String.ofList plain
    return some (String.ofList (constantName plain), recorded)

end Declaration

/-- A declared entity: its name, and the constant and record name of each field
in order. -/
structure Declaration where
  name : String
  constants : List (String × String)
  deriving DecidableEq

namespace Declaration

/-- The declared fields. -/
def fields (declaration : Declaration) : List String := declaration.constants.map Prod.snd

/-- Declare a described type. The type's attributes are read first, then its kind
is checked, then its fields are read in order. -/
def ofType (description : TypeDescription) : Except Fault Declaration := do
  let options ← typeOptions description.attributes
  match description.kind with
  | .named => pure ()
  | .positional | .empty => throw .unnamedFields
  | .alternatives | .overlapping => throw .notAStructure
  let constants ← description.fields.mapM (declareField options.rule)
  return { name := options.name.getD description.name, constants := constants.filterMap id }

end Declaration

end RecordQuery
