/-!
# Diagnostics

A semantic tree is smaller than the document it was built from.  Each loss is reported as a
`Diagnostic`: a block kind without a node is transparent, an inline kind without a node is dropped,
and so is a child of a list item that is neither a paragraph nor a list.
-/

namespace DocTree
namespace Build

/-- Something that the semantic tree could not represent as it is. -/
inductive Diagnostic
  /-- An unhandled block container was traversed in place. -/
  | blockFallthrough (kind : String)
  /-- An unhandled inline was dropped. -/
  | inlineDrop (kind : String)
  /-- A child of a list item that is neither a paragraph nor a list was dropped. -/
  | listChildDrop (kind : String) (depth : Nat)
deriving DecidableEq, Repr

namespace Diagnostic

/-- Name of the policy behind a diagnostic. -/
def policy : Diagnostic → String
  | blockFallthrough _ => "BlockFallthrough"
  | inlineDrop _ => "InlineDrop"
  | listChildDrop _ _ => "ListChildDrop"

/-- A diagnostic in words. -/
def message : Diagnostic → String
  | blockFallthrough kind => "block '" ++ kind ++ "' has no node, children kept in place"
  | inlineDrop kind => "inline '" ++ kind ++ "' dropped"
  | listChildDrop kind depth =>
      "'" ++ kind ++ "' inside a list item at depth " ++ toString depth ++ " dropped"

end Diagnostic

end Build
end DocTree
