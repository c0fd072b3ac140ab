import RecordQuery.Declaration.Naming
import RecordQuery.Declaration.Word

/-!
# Attributes of entity declarations

A declared type and its fields carry attributes with arguments. Those under the
library's own name are binding, and anything in them that means nothing is an
error. Those of the serializer are consulted where the library's own say nothing,
and anything in them that means nothing is passed over. An attribute with one
argument that cannot be read has none that can.
-/

namespace RecordQuery.Declaration

/-- A literal. Only texts mean anything. -/
inductive Literal where
  | text (value : String)
  | other
  deriving DecidableEq

/-- One argument of an attribute: a word, a word with a literal, or a word with
arguments of its own. -/
inductive Argument where
  | word (name : String)
  | assigned (name : String) (literal : Literal)
  | nested (name : String)
  deriving DecidableEq

/-- The word that an argument starts with. -/
def Argument.name : Argument → String
  | .word name => name
  | .assigned name _ => name
  | .nested name => name

/-- An attribute. Its arguments are nothing if there are none that are written as
arguments. -/
structure Attribute where
  path : String
  arguments : Option (List Argument)
  deriving DecidableEq

/-- Why a declaration is refused. -/
inductive Fault where
  | unreadableArguments
  | reservedWord (name : String)
  | expectedAssignment
  | expectedText
  | unknownAttribute
  | unknownFieldAttribute
  | unknownRule (name : String)
  | unnamedFields
  | notAStructure
  deriving DecidableEq

namespace Fault

/-- The wording of a fault. -/
def message : Fault → String
  | unreadableArguments => "expected attribute arguments"
  | reservedWord name => "expected identifier, found keyword \x60" ++ name ++ "\x60"
  | expectedAssignment =>
      "unknown entity attribute. Expected: name = \"...\" or rename_all = \"...\""
  | expectedText => "expected a string literal"
  | unknownAttribute => "unknown attribute. Expected: name or rename_all"
  | unknownFieldAttribute =>
      "unknown entity field attribute. Expected: skip or rename = \"...\""
  | unknownRule name =>
      "unknown rename rule: '" ++ name ++ "'. Expected one of: " ++
        ", ".intercalate (NamingRule.all.map NamingRule.name)
  | unnamedFields => "Entity can only be derived for structs with named fields"
  | notAStructure => "Entity can only be derived for structs"

end Fault

/-- The text of a literal. -/
def textOf : Literal → Except Fault String
  | .text value => .ok value
  | .other => .error .expectedText

/-- The convention with a given name. -/
def ruleOf (name : String) : Except Fault NamingRule :=
  match NamingRule.ofName? name with
  | some rule => .ok rule
  | none => .error (.unknownRule name)

/-- What attributes say about a declared type. -/
structure TypeOptions where
  name : Option String := none
  rule : Option NamingRule := none
  deriving DecidableEq

/-- What attributes say about a field. -/
structure FieldOptions where
  skip : Bool := false
  rename : Option String := none
  deriving DecidableEq

namespace TypeOptions

/-- Take in one argument. -/
def take (options : TypeOptions) : Argument → Except Fault TypeOptions
  | .assigned key literal => do
      let value ← textOf literal
      if key = "name" then return { options with name := some value }
      else if key = "rename_all" then return { options with rule := some (← ruleOf value) }
      else throw .unknownAttribute
  | _ => throw .expectedAssignment

end TypeOptions

namespace FieldOptions

/-- Take in one argument. -/
def take (options : FieldOptions) : Argument → Except Fault FieldOptions
  | .word "skip" => .ok { options with skip := true }
  | .assigned "rename" literal => do return { options with rename := some (← textOf literal) }
  | _ => .error .unknownFieldAttribute

end FieldOptions

/-- The path of the library's own attributes. -/
def ownPath : String := "entity"

/-- The path of the serializer's attributes. -/
def serializerPath : String := "serde"

/-- An argument under a name that an argument may have. -/
def Argument.check (argument : Argument) : Except Fault Argument :=
  if isArgumentName argument.name then .ok argument
  else if reservedWords.contains argument.name then .error (.reservedWord argument.name)
  else .error .unreadableArguments

/-- The arguments of an attribute, all of which must be readable. -/
def Attribute.read (given : Attribute) : Except Fault (List Argument) :=
  match given.arguments with
  | some arguments => arguments.mapM Argument.check
  | none => .error .unreadableArguments

/-- What the library's own attributes say. Each attribute starts from nothing, so
the last one counts. -/
def readOwn {α : Type} (empty : α) (take : α → Argument → Except Fault α)
    (attributes : List Attribute) : Except Fault α :=
  (attributes.filter fun given => given.path == ownPath).foldlM
    (fun _ given => do (← given.read).foldlM take empty)
    empty

/-- All arguments of those of the serializer's attributes that can be read. -/
def serializerArguments (attributes : List Attribute) : List Argument :=
  (attributes.filter fun given => given.path == serializerPath).flatMap fun given =>
    given.read.toOption.getD []

/-- The first text that the serializer's attributes assign to a key. -/
def serializerText? (attributes : List Attribute) (key : String) : Option String :=
  (serializerArguments attributes).findSome? fun
    | .assigned name (.text value) => if name = key then some value else none
    | _ => none

/-- What all attributes of a type say. A convention that only the serializer has
is no convention. -/
def typeOptions (attributes : List Attribute) : Except Fault TypeOptions := do
  let own ← readOwn {} TypeOptions.take attributes
  let fallback := (serializerText? attributes "rename_all").bind NamingRule.ofName?
  return { own with rule := own.rule.or fallback }

/-- What all attributes of a field say. -/
def fieldOptions (attributes : List Attribute) : Except Fault FieldOptions := do
  let own ← readOwn {} FieldOptions.take attributes
  return {
    skip := own.skip || (serializerArguments attributes).contains (.word "skip")
    rename := own.rename.or (serializerText? attributes "rename") }

end RecordQuery.Declaration
