import RecordQuery.Text.Blank
import RecordQuery.Wire.Spec
import RecordQuery.Yaml.Node

/-!
# Settings files

Settings are written as a YAML mapping with the names of the wire form. A file
without content stands for the usual settings, names that mean nothing are
ignored, and a name that means something may be given only once.
-/

namespace RecordQuery.Settings

/-- What an entry under a name holds, or nothing if there is none. A name may be
given only once. -/
def entry? (entries : List (String × Yaml.Node)) (name : String) : Option (Option Yaml.Node) :=
  match entries.filter fun entry => entry.1 == name with
  | [] => some none
  | [(_, node)] => some (some node)
  | _ => none

/-- A part that is a text. -/
def textPart? (entries : List (String × Yaml.Node)) (name default : String) : Option String := do
  match ← entry? entries name with
  | some node => node.text?
  | none => some default

/-- The settings of named entries. -/
def ofEntries? (entries : List (String × Yaml.Node)) : Option Settings := do
  let usual : Settings := {}
  let idField ← textPart? entries "id_field" usual.idField
  let createdAtField ← textPart? entries "created_at_field" usual.createdAtField
  let updatedAtField ← textPart? entries "updated_at_field" usual.updatedAtField
  let strategy ← textPart? entries "id_strategy" usual.idStrategy.name
  let idStrategy ← IdStrategy.ofName? strategy
  return { idField, createdAtField, updatedAtField, idStrategy }

/-- The settings that a document describes. All its keys must be scalars. -/
def ofNode? : Yaml.Node → Option Settings
  | .empty => some {}
  | .mapping entries => do
      let named ← entries.mapM fun (key, node) => do return (← Yaml.Node.text? key, node)
      ofEntries? named
  | _ => none

/-- Read the settings of a file. -/
def ofDocument (text : String) : Except Error Settings :=
  let read :=
    if (Text.trim text.toList).isEmpty then some {} else (Yaml.Node.ofText? text).bind ofNode?
  match read with
  | some settings => .ok settings
  | none => .error .settings

end RecordQuery.Settings
