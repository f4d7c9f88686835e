import DocTree.Build.ToJson
import DocTree.Format.Treeviz
import DocTree.Json.Printer

/-!
# Formats

A format turns a conversion into a text for inspection.  It has a name, may have a description, and
may take parameters; a format without parameters ignores them.  Two formats are built in: the tree
visualization, and the JSON text of the tree with or without its diagnostics.
-/

namespace DocTree
namespace Format

open Build (InvalidOption)

/-- What may go wrong outside the builders. -/
inductive Error
  /-- No format is registered under the name. -/
  | formatNotFound (name : String)
  /-- A value names no choice of an option. -/
  | invalidOption (error : InvalidOption)
  /-- The JSON text of a conversion cannot be written, for a reason. -/
  | json (reason : String)
deriving DecidableEq, Repr

/-- Text of an error. -/
def Error.message : Error → String
  | formatNotFound name => "Format '" ++ name ++ "' not found"
  | invalidOption error => error.message
  | json reason => "JSON serialization failed: " ++ reason

end Format

/-- A text format for conversions. -/
structure Format where
  name : String
  description : String := ""
  serialize : Build.Conversion → Except Format.Error String
  /-- Serialization under parameters, which are ignored unless a format says otherwise. -/
  serializeWith : Format.Params → Build.Conversion → Except Format.Error String :=
    fun _ => serialize

namespace Format

open Build (Conversion)

/-- The tree visualization as a format. -/
def treevizFormat : Format where
  name := "treeviz"
  description := "Visual tree representation with indentation and Unicode icons"
  serialize conversion := .ok (treeviz Params.empty conversion.root)
  serializeWith params conversion := .ok (treeviz params conversion.root)

/-- The JSON text of a conversion. -/
def dump (conversion : Conversion) : String :=
  conversion.json.pretty

/-- The JSON text of a conversion, or of its root alone if the parameters say so. -/
def dumpWith (params : Params) (conversion : Conversion) : String :=
  if params.flag "diagnostics" true then dump conversion else conversion.root.json.pretty

/-- The JSON text as a format. -/
def jsonFormat : Format where
  name := "json"
  description := "Pretty-printed JSON of the semantic tree"
  serialize conversion := .ok (dump conversion)
  serializeWith params conversion := .ok (dumpWith params conversion)

end Format
end DocTree
