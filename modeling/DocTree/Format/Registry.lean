import DocTree.Format.Basic

/-!
# The registry of formats

A registry holds formats under their names, each name once, in the order of the names.  A format
registered under a name that is taken replaces the one that was there.
-/

namespace DocTree
namespace Format

open Build (Conversion)

/-- Formats in the order of their names. -/
structure Registry where
  formats : List Format

namespace Registry

/-- The registry without formats. -/
def empty : Registry := ⟨[]⟩

/-- Put a format into formats ordered by name, in place of one of the same name. -/
def insert (format : Format) : List Format → List Format
  | [] => [format]
  | f :: fs =>
      if f.name < format.name then f :: insert format fs
      else if f.name == format.name then format :: fs
      else format :: f :: fs

/-- Register a format. -/
def register (registry : Registry) (format : Format) : Registry :=
  ⟨insert format registry.formats⟩

/-- The registry of the built-in formats. -/
def builtin : Registry :=
  (empty.register treevizFormat).register jsonFormat

/-- The names of the formats, in order. -/
def names (registry : Registry) : List String :=
  registry.formats.map Format.name

/-- The format under a name. -/
def find (registry : Registry) (name : String) : Except Error Format :=
  match registry.formats.find? (·.name == name) with
  | some format => .ok format
  | none => .error (.formatNotFound name)

/-- Whether a format is registered under a name. -/
def has (registry : Registry) (name : String) : Bool :=
  registry.formats.any (·.name == name)

/-- Serialize a conversion with the format under a name. -/
def serializeWith (registry : Registry) (name : String) (params : Params)
    (conversion : Conversion) : Except Error String :=
  match registry.find name with
  | .ok format => format.serializeWith params conversion
  | .error error => .error error

/-- Serialize a conversion with the format under a name and no parameters. -/
def serialize (registry : Registry) (name : String) (conversion : Conversion) :
    Except Error String :=
  registry.serializeWith name Params.empty conversion

end Registry

end Format
end DocTree
