import DocTree.Markdown.Inline

/-!
# Drafts of blocks

The text of a document is read after all its blocks are known, because a definition may stand behind
the links that refer to it.  Until then a block is a draft, which keeps the text that is still to be
read.
-/

namespace DocTree
namespace Markdown

/-- A block whose text has not been read yet. -/
inductive Draft
  | mk (kind : Ast.Kind) (source : List Char) (children : List Draft)
deriving Inhabited

namespace Draft

/-- A block without text. -/
def ofKind (kind : Ast.Kind) (children : List Draft) : Draft :=
  mk kind [] children

mutual

/-- The node of a draft, before which references have brought a number of bytes into the document,
and that number behind it. -/
def node (scope : Scope) (spent : Nat) : Draft → Ast.Node × Nat
  | mk kind source children =>
      let text := inlines scope spent source
      let below := nodes scope text.2 children
      (.mk kind (text.1 ++ below.1), below.2)

/-- The nodes of drafts, and the number behind them. -/
def nodes (scope : Scope) (spent : Nat) : List Draft → List Ast.Node × Nat
  | [] => ([], spent)
  | draft :: drafts =>
      let first := node scope spent draft
      let others := nodes scope first.2 drafts
      (first.1 :: others.1, others.2)

end

end Draft

end Markdown
end DocTree
