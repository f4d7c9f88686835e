/-!
# Options of the builders

Two knobs shape a build: where nested lists go, and how the tail of a code block is trimmed.  Both
have a name in kebab case, by which they are chosen.
-/

namespace DocTree
namespace Build

/-- Where a nested list ends up relative to the item it follows. -/
inductive ListLayout
  /-- It is the next sibling of its item, inside the enclosing list. -/
  | flattened
  /-- It is a child of the item it follows. -/
  | nested
deriving DecidableEq, Repr

/-- How trailing characters are removed from a code block. -/
inductive CodeTrim
  /-- The run of trailing spaces and one more character. -/
  | reference
  /-- All trailing white space. -/
  | trailingWhitespace
deriving DecidableEq, Repr

/-- An option value that names no choice of the option. -/
structure InvalidOption where
  option : String
  value : String
deriving DecidableEq, Repr

/-- Text of the error. -/
def InvalidOption.message (error : InvalidOption) : String :=
  "Invalid value '" ++ error.value ++ "' for " ++ error.option

/-- Name of a layout. -/
def ListLayout.name : ListLayout → String
  | flattened => "flattened"
  | nested => "nested"

/-- The layout with a given name. -/
def ListLayout.ofName (name : String) : Except InvalidOption ListLayout :=
  if name == "flattened" then .ok .flattened
  else if name == "nested" then .ok .nested
  else .error ⟨"list-layout", name⟩

/-- Name of a trimming mode. -/
def CodeTrim.name : CodeTrim → String
  | reference => "reference"
  | trailingWhitespace => "trailing-whitespace"

/-- The trimming mode with a given name. -/
def CodeTrim.ofName (name : String) : Except InvalidOption CodeTrim :=
  if name == "reference" then .ok .reference
  else if name == "trailing-whitespace" then .ok .trailingWhitespace
  else .error ⟨"code-trim", name⟩

/-- The knobs of a build. -/
structure Options where
  listLayout : ListLayout := .flattened
  codeTrim : CodeTrim := .reference
deriving DecidableEq, Repr

end Build
end DocTree
