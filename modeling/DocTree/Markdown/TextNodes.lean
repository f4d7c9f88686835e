import DocTree.Ast.Basic
import DocTree.Markdown.Autolink

/-!
# Text nodes of a finished tree

Three passes over a tree deal with its text nodes.  The first one joins neighbours, so that a text
is not cut where nothing stands between.  With the extensions for them, the second one finds the
boxes of tasks, and the third one the mailboxes.  No pass looks into a link or an image.
-/

namespace DocTree
namespace Ast

/-- Whether the texts below a kind stay as they are. -/
def Kind.isLink : Kind → Bool
  | link _ _ => true
  | image _ _ => true
  | _ => false

namespace Node

/-! ## Joining -/

/-- Put a node before others, joining two texts that meet. -/
def joinFront (node : Node) (nodes : List Node) : List Node :=
  match node.kind, nodes with
  | .text s, .mk (.text t) _ :: rest => text (s ++ t) :: rest
  | _, _ => node :: nodes

mutual

/-- A node with the neighbouring texts below it joined. -/
def joinTexts : Node → Node
  | mk kind children => if kind.isLink then mk kind children else mk kind (joinAll children)

/-- Nodes with the neighbouring texts joined, also below them. -/
def joinAll : List Node → List Node
  | [] => []
  | node :: nodes => joinFront (joinTexts node) (joinAll nodes)

end

/-! ## Tasks -/

/-- The text behind the box of a task, which is empty or crossed. -/
def afterBox? (chars : List Char) : Option (List Char) :=
  match Markdown.skipSeparators chars with
  | '[' :: c :: ']' :: rest =>
      if c == ' ' || c == 'x' || c == 'X' then
        match rest with
        | [] => some []
        | d :: behind => if Markdown.isSeparator d then some behind else none
      else none
  | _ => none

/-- Make an item a task if the text of its first paragraph starts with a box, which is dropped. -/
def asTask (node : Node) : Node :=
  match node with
  | mk .item (mk .paragraph (mk (.text s) below :: inlines) :: blocks) =>
      match afterBox? s.toList with
      | some rest =>
          mk .taskItem (mk .paragraph (mk (.text (String.ofList rest)) below :: inlines) :: blocks)
      | none => node
  | _ => node

mutual

/-- A tree in which items with a box are tasks. -/
def markTasks : Node → Node
  | mk kind children => asTask (mk kind (markTasksAll children))

/-- Trees in which items with a box are tasks. -/
def markTasksAll : List Node → List Node
  | [] => []
  | node :: nodes => markTasks node :: markTasksAll nodes

end

/-! ## Mailboxes -/

/-- A text as nodes in which mailboxes are links, at most a number of them. -/
def linkMailboxesIn : Nat → List Char → List Node
  | 0, chars => [text (String.ofList chars)]
  | n + 1, chars =>
      match Markdown.mailboxIn? 0 [] chars with
      | none => [text (String.ofList chars)]
      | some (before, found) =>
          let link := mk (.link found.url "") [text found.shown]
          text (String.ofList before) :: link ::
            if found.rest.isEmpty then [] else linkMailboxesIn n found.rest

mutual

/-- A tree in which mailboxes are links. -/
def linkMailboxes : Node → Node
  | mk kind children =>
      if kind.isLink then mk kind children else mk kind (linkMailboxesAll children)

/-- Trees in which mailboxes are links. -/
def linkMailboxesAll : List Node → List Node
  | [] => []
  | node :: nodes =>
      let linked := linkMailboxes node
      let here := match linked.kind with
        | .text s => linkMailboxesIn s.length s.toList
        | _ => [linked]
      here ++ linkMailboxesAll nodes

end

end Node

end Ast
end DocTree
