import RecordQuery.Text.CaseTable

/-!
# Naming conventions

How the name of a field becomes the name under which it is recorded, and the
name of the constant for it. Conventions change ASCII letters only.
-/

namespace RecordQuery

/-- A convention for record names. -/
inductive NamingRule where
  | lower
  | upper
  | pascal
  | camel
  | snake
  | screamingSnake
  | kebab
  deriving DecidableEq

namespace NamingRule

/-- All conventions in their usual order. -/
def all : List NamingRule := [lower, upper, pascal, camel, snake, screamingSnake, kebab]

/-- The name of a convention, written in its own style. -/
def name : NamingRule → String
  | lower => "lowercase"
  | upper => "UPPERCASE"
  | pascal => "PascalCase"
  | camel => "camelCase"
  | snake => "snake_case"
  | screamingSnake => "SCREAMING_SNAKE_CASE"
  | kebab => "kebab-case"

/-- The convention with a given name. -/
def ofName? (text : String) : Option NamingRule := all.find? fun rule => rule.name == text

/-- Names are read back. -/
@[simp] theorem ofName?_name (rule : NamingRule) : ofName? rule.name = some rule := by
  cases rule <;> decide

/-- Drop underscores and capitalise the letter after each of them, and the next
letter if `capital` says so. -/
def joinWords (capital : Bool) : List Char → List Char
  | [] => []
  | character :: rest =>
      if character = '_' then joinWords true rest
      else (if capital then character.toUpper else character) :: joinWords false rest

/-- The record name of a field. -/
def apply (rule : NamingRule) (field : List Char) : List Char :=
  match rule with
  | lower | snake => field
  | upper | screamingSnake => field.map Char.toUpper
  | kebab => field.map fun character => if character = '_' then '-' else character
  | pascal => joinWords true field
  | camel => joinWords false field

end NamingRule

namespace Declaration

/-- The characters of a constant's name: capitals, with an underscore where a
capital follows a character that is none. -/
def constantFrom (afterSmall : Bool) : List Char → List Char
  | [] => []
  | character :: rest =>
      if Text.isUpper character then
        (if afterSmall then ['_', character] else [character]) ++ constantFrom false rest
      else if character = '_' || character = '-' then '_' :: constantFrom false rest
      else character.toUpper :: constantFrom true rest

/-- The name of the constant for a field. -/
def constantName (field : List Char) : List Char := constantFrom false field

end Declaration

end RecordQuery
