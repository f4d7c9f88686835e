import DocTree.Ast.Lowering

/-!
# The text of a syntax tree

The text of a syntax node is told from the node itself: texts, code and inline HTML are their own
text, a break is a space or a line end, a strikethrough stands between its delimiters, and every
other node is the texts of its children one after the other.

Lowering keeps it (`plainText_inline`).  A kind without a counterpart is reduced to the plain text
of its children after these have been lowered, so the two recursions are one.
-/

namespace DocTree
namespace Ast

open Markup (Inline)

mutual

/-- The text of a node. -/
def Node.plainText : Node → String
  | .mk kind children =>
      match kind with
      | .text s => s
      | .code literal => literal
      | .softBreak => " "
      | .lineBreak => "\n"
      | .htmlInline html => html
      | .strikethrough => "~" ++ Node.plainTextAll children ++ "~"
      | _ => Node.plainTextAll children

def Node.plainTextAll : List Node → String
  | [] => ""
  | node :: nodes => node.plainText ++ Node.plainTextAll nodes

end

mutual

theorem plainText_inline :
    ∀ node : Node, node.inline.plainText = node.plainText
  | .mk kind children => by
      have hbelow := plainText_inlines children
      cases kind
      case strikethrough =>
        simp only [Node.inline, Node.plainText, Inline.plainText, hbelow]
        rfl
      all_goals simp only [Node.inline, Node.plainText, Inline.plainText, hbelow]

theorem plainText_inlines :
    ∀ nodes : List Node, Inline.plainTextAll (Node.inlines nodes) = Node.plainTextAll nodes
  | [] => rfl
  | node :: nodes => by
      rw [Node.inlines, Inline.plainTextAll, Node.plainTextAll, plainText_inline node,
        plainText_inlines nodes]

end

end Ast
end DocTree
