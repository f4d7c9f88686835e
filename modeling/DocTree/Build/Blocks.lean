import DocTree.Build.CodeTrim
import DocTree.Build.Lists
import DocTree.Build.Tables

/-!
# Building blocks

Each block becomes one node, except a block kind without a node: its children are built in its
place, and the container leaves no trace but a diagnostic.
-/

namespace DocTree
namespace Build

mutual

/-- Build the blocks that one source block gives: one for every kind with a node, any number for
a container without one. -/
def block : Markup.Block → Context → List Tree.Block × Context
  | .heading level content, cx =>
      let cx := cx.record .trace "building heading"
      ([.heading cx.nextId level (Markup.Inline.plainTextAll content)], cx.issue)
  | .paragraph content, cx =>
      let built := paragraph content (cx.record .trace "building paragraph")
      ([.paragraph built.1], built.2)
  | .codeBlock info literal, cx =>
      let cx := cx.record .trace "building code_block"
      let language := if info.isEmpty then none else some info
      ([.codeBlock cx.nextId language (trimCode cx.options.codeTrim literal)], cx.issue)
  | .list ordered items, cx =>
      let built := list ordered items 0 (cx.record .trace "building list")
      ([.list built.1], built.2)
  | .blockQuote children, cx =>
      let cx := cx.record .trace "building block_quote"
      let built := blocks children cx.issue
      ([.blockQuote cx.nextId built.1], built.2)
  | .table source, cx =>
      let built := table source (cx.record .trace "building table")
      ([.table built.1], built.2)
  | .other name children, cx =>
      blocks children
        ((cx.record .trace ("building " ++ name)).report (.blockFallthrough name))

/-- Build a run of blocks. -/
def blocks : List Markup.Block → Context → List Tree.Block × Context
  | [], cx => ([], cx)
  | b :: bs, cx =>
      let first := block b cx
      let rest := blocks bs first.2
      (first.1 ++ rest.1, rest.2)

end

/-- A run of blocks may be built in parts, one behind the other. -/
theorem blocks_append (source source' : List Markup.Block) (cx : Context) :
    blocks (source ++ source') cx =
      ((blocks source cx).1 ++ (blocks source' (blocks source cx).2).1,
        (blocks source' (blocks source cx).2).2) := by
  induction source generalizing cx with
  | nil =>
      rfl
  | cons b bs ih =>
      simp only [List.cons_append, blocks, ih, List.append_assoc]

end Build
end DocTree
