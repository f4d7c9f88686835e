import DocTree.Build.Blocks

/-!
# Building a whole document

A conversion is the tree of a document and what was lost building it.  The root takes the first id.
-/

namespace DocTree
namespace Build

/-- A built tree and what was lost building it. -/
structure Conversion where
  root : Tree.Root
  diagnostics : List Diagnostic

/-- The root of a document and the context after the build. -/
def buildRoot (doc : Markup.Document) (options : Options) : Tree.Root × Context :=
  let cx := Context.new options
  let children := blocks doc.children cx.issue
  (⟨cx.nextId, children.1⟩, children.2)

/-- Build the semantic tree of a document. -/
def build (doc : Markup.Document) (options : Options) : Conversion :=
  let built := buildRoot doc options
  { root := built.1, diagnostics := built.2.diagnostics.toList }

/-- The log of a build, in order; a summary of the tree closes it. -/
def buildLog (doc : Markup.Document) (options : Options) : List LogRecord :=
  let built := buildRoot doc options
  built.2.log.toList ++
    [⟨.trace, "built " ++ toString built.1.children.length ++ " top-level blocks (" ++
      toString built.2.issued ++ " nodes), " ++ toString built.2.diagnostics.size ++
      " diagnostics"⟩]

end Build
end DocTree
