import DocTree.Settings.Basic
import DocTree.Settings.Error

/-!
# Settings from values

A group of settings is a table under the names of its settings, or an array of them in their order.
Single values are converted where that makes sense: words count as truth values, truth values as
numbers, numbers as texts.

The values that are there are converted first, in the order of the settings; only then does a
setting that is missing count.
-/

namespace DocTree
namespace Settings

/-- A value that an error shows. -/
def Value.unexpected : Value → Unexpected
  | scalar _ data => .scalar data
  | array _ _ => .array
  | table _ _ => .table

/-- The error for a value of the wrong type. -/
def Value.wrongType (value : Value) (expected : Expected) : Error :=
  .wrongType value.unexpected expected "" value.origin

/-! ## Single values -/

/-- The truth value of a value. -/
def Value.toBool (value : Value) : Except Error Bool :=
  match value with
  | .scalar _ (.boolean b) => .ok b
  | .scalar _ (.integer n) => .ok (n.value != 0)
  | .scalar _ (.float x) => .ok x.isNonzero
  | .scalar origin (.string s) =>
      let word := Text.lowercase s
      if ["1", "true", "on", "yes"].contains word then .ok true
      else if ["0", "false", "off", "no"].contains word then .ok false
      else .error (.wrongType (.scalar (.string word)) .boolean "" origin)
  | _ => .error (value.wrongType .boolean)

/-- The number of 64 bits without a sign that a value stands for. -/
def Value.toWord (value : Value) : Except Error Nat :=
  match value with
  | .scalar _ (.boolean b) => .ok b.toNat
  | .scalar _ (.integer n) =>
      if 0 ≤ n.value && n.value < Text.wordLimit then .ok n.value.toNat
      else .error (value.wrongType .word)
  | .scalar _ (.float x) => .ok x.toWord
  | .scalar _ (.string s) =>
      let word := Text.lowercase s
      if ["true", "on", "yes"].contains word then .ok 1
      else if ["false", "off", "no"].contains word then .ok 0
      else
        match Text.readWord? s with
        | some n => .ok n
        | none => .error (value.wrongType .integer)
  | _ => .error (value.wrongType .integer)

/-- The text of a value. -/
def Value.toText (value : Value) : Except Error String :=
  match value with
  | .scalar _ (.boolean b) => .ok (toString b)
  | .scalar _ (.integer n) => .ok (toString n.value)
  | .scalar _ (.float x) => .ok x.text
  | .scalar _ (.string s) => .ok s
  | _ => .error (value.wrongType .string)

/-- The choice of an option that has a name in some case; a table with one key counts as the key. -/
def Value.toChoice (option : String) (choices : List (String × α)) (value : Value) :
    Except Error α :=
  let choose := fun name =>
    match choices.lookup (Text.lowercase name) with
    | some choice => .ok choice
    | none => .error (Error.noChoice option name)
  match value with
  | .scalar _ (.string s) => choose s
  | .table _ [(key, _)] => choose key
  | _ => .error (.notAChoice option)

/-- Where nested lists go. -/
def Value.toListLayout : Value → Except Error Build.ListLayout :=
  toChoice "ListLayout" [("flattened", .flattened), ("nested", .nested)]

/-- How code is trimmed. -/
def Value.toCodeTrim : Value → Except Error Build.CodeTrim :=
  toChoice "CodeTrim" [("reference", .reference), ("trailing-whitespace", .trailingWhitespace)]

/-! ## Groups -/

/-- A group of settings: its name in messages, and the names of its settings. -/
structure Group where
  name : String
  fields : List String

/-- Check that a value may stand for a group. -/
def Value.checkGroup (group : Group) (value : Value) : Except Error Unit :=
  match value with
  | .scalar _ data => .error (.noGroup data group.name)
  | _ => .ok ()

/-- The value of a setting of a group, and the step to it. -/
def Value.field? (group : Group) (value : Value) (name : String) : Option (Step × Value) :=
  match value with
  | .table _ entries => (entries.lookup name).map fun inner => (.key name, inner)
  | .array _ items =>
      let n := group.fields.idxOf name
      items[n]?.map fun inner => (.position n, inner)
  | .scalar _ _ => none

/-- Convert a setting of a group, if it is there. -/
def Value.decode? (group : Group) (value : Value) (name : String)
    (convert : Value → Except Error α) : Except Error (Option α) :=
  match value.field? group name with
  | none => .ok none
  | some (step, inner) => ((convert inner).mapError (Error.within step)).map some

/-- A setting that must be there. -/
def Value.demand (group : Group) (value : Value) (name : String) : Option α → Except Error α
  | some a => .ok a
  | none =>
      match value with
      | .array _ items => .error (.tooShort items.length group.name group.fields.length)
      | _ => .error (.missingField name)

/-- The settings of the grammar. -/
def Value.toMarkdown (value : Value) : Except Error MarkdownSettings := do
  let group : Group := ⟨"MarkdownConfig",
    ["table", "strikethrough", "autolink", "tasklist", "superscript", "front_matter_delimiter"]⟩
  value.checkGroup group
  let table ← value.decode? group "table" toBool
  let strikethrough ← value.decode? group "strikethrough" toBool
  let autolink ← value.decode? group "autolink" toBool
  let tasklist ← value.decode? group "tasklist" toBool
  let superscript ← value.decode? group "superscript" toBool
  let delimiter ← value.decode? group "front_matter_delimiter" toText
  return {
    table := ← value.demand group "table" table
    strikethrough := ← value.demand group "strikethrough" strikethrough
    autolink := ← value.demand group "autolink" autolink
    tasklist := ← value.demand group "tasklist" tasklist
    superscript := ← value.demand group "superscript" superscript
    frontMatterDelimiter := ← value.demand group "front_matter_delimiter" delimiter }

/-- The settings of the builders. -/
def Value.toBuild (value : Value) : Except Error Build.Options := do
  let group : Group := ⟨"BuildConfig", ["list_layout", "code_trim"]⟩
  value.checkGroup group
  let listLayout ← value.decode? group "list_layout" toListLayout
  let codeTrim ← value.decode? group "code_trim" toCodeTrim
  return {
    listLayout := ← value.demand group "list_layout" listLayout
    codeTrim := ← value.demand group "code_trim" codeTrim }

/-- The settings of the tree visualization. -/
def Value.toTreeviz (value : Value) : Except Error TreevizSettings := do
  let group : Group := ⟨"TreevizConfig", ["show_ids", "max_label"]⟩
  value.checkGroup group
  let showIds ← value.decode? group "show_ids" toBool
  let maxLabel ← value.decode? group "max_label" toWord
  return {
    showIds := ← value.demand group "show_ids" showIds
    maxLabel := ← value.demand group "max_label" maxLabel }

/-- The settings of the JSON format. -/
def Value.toJson (value : Value) : Except Error JsonSettings := do
  let group : Group := ⟨"JsonConfig", ["diagnostics"]⟩
  value.checkGroup group
  let diagnostics ← value.decode? group "diagnostics" toBool
  return { diagnostics := ← value.demand group "diagnostics" diagnostics }

/-- The settings of inspection. -/
def Value.toInspect (value : Value) : Except Error InspectSettings := do
  let group : Group := ⟨"InspectConfig", ["treeviz", "json"]⟩
  value.checkGroup group
  let treeviz ← value.decode? group "treeviz" toTreeviz
  let json ← value.decode? group "json" toJson
  return {
    treeviz := ← value.demand group "treeviz" treeviz
    json := ← value.demand group "json" json }

/-- All settings. -/
def Value.toSettings (value : Value) : Except Error Settings := do
  let group : Group := ⟨"MdtreeConfig", ["markdown", "build", "inspect"]⟩
  value.checkGroup group
  let markdown ← value.decode? group "markdown" toMarkdown
  let build ← value.decode? group "build" toBuild
  let inspect ← value.decode? group "inspect" toInspect
  return {
    markdown := ← value.demand group "markdown" markdown
    build := ← value.demand group "build" build
    inspect := ← value.demand group "inspect" inspect }

end Settings
end DocTree
