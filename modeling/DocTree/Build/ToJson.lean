import DocTree.Build.Conversion
import DocTree.Tree.ToJson

/-!
# Conversions as JSON

A conversion is an object with its root and its diagnostics; a diagnostic is an object whose first
member, `policy`, names its policy.
-/

namespace DocTree
namespace Build

/-- A diagnostic as JSON. -/
def Diagnostic.json (diagnostic : Diagnostic) : Json :=
  match diagnostic with
  | .blockFallthrough kind =>
      .object [("policy", .string diagnostic.policy), ("kind", .string kind)]
  | .inlineDrop kind => .object [("policy", .string diagnostic.policy), ("kind", .string kind)]
  | .listChildDrop kind depth =>
      .object [("policy", .string diagnostic.policy), ("kind", .string kind),
        ("depth", .number depth)]

/-- A conversion as JSON. -/
def Conversion.json (conversion : Conversion) : Json :=
  .object [("root", conversion.root.json),
    ("diagnostics", .array (conversion.diagnostics.map Diagnostic.json))]

end Build
end DocTree
