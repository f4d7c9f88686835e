import DocTree.Build.Blocks
import DocTree.Proofs.Ast.Outline

/-!
# Collapsing keeps the text

In inline place a kind that has neither a counterpart nor a text of its own collapses: a
superscript, an underline or a stray block becomes one inline with the plain text of its children.
Collapsing is compared here with its alternative, which is to open the node and let its children
stand in its place.

**Opening.**  `Node.openedAll` opens a choice of such kinds at any depth of a run of nodes.  The
text stays the same whatever is opened (`plainText_openedAll`).  Lowering keeps the text as well, so
what is built from a heading, a span, a link or an image does not tell whether something in it
collapsed.

**Delimiters.**  Each strikethrough that counts for the text, at whatever depth, puts one delimiter
on each side of its children (`count_plainText`); the rest of the text is written in the tree.
-/

namespace DocTree
namespace Ast

open Markup (Inline)

section Texts

theorem plainTextAll_eq_join (nodes : List Node) :
    Node.plainTextAll nodes = String.join (nodes.map Node.plainText) := by
  induction nodes with
  | nil =>
      rfl
  | cons node nodes ih =>
      rw [Node.plainTextAll, ih, List.map_cons, String.join_cons]

theorem plainTextAll_append (nodes nodes' : List Node) :
    Node.plainTextAll (nodes ++ nodes') =
      Node.plainTextAll nodes ++ Node.plainTextAll nodes' := by
  simp only [plainTextAll_eq_join, List.map_append, String.join_append]

/-- Of its children a node shows nothing but their text. -/
theorem plainText_congr
    (kind : Kind)
    {children children' : List Node}
    (h : Node.plainTextAll children = Node.plainTextAll children') :
    Node.plainText (.mk kind children) = Node.plainText (.mk kind children') := by
  cases kind <;> simp only [Node.plainText, h]

theorem plainText_row (row : Node) :
    row.row.map Inline.plainTextAll =
      row.children.map fun cell => String.join (cell.children.map Node.plainText) := by
  rw [Node.row, List.map_map]
  apply List.map_congr_left
  intro cell _
  rw [Function.comp_apply, Node.cell, plainText_inlines, plainTextAll_eq_join]

end Texts

section Opening

/-- Whether a node of a kind is reduced to the text of its children in inline place. -/
def Kind.collapses : Kind → Bool
  | softBreak | lineBreak | htmlInline _ => false
  | kind => !kind.isInline

theorem plainText_of_collapses
    {kind : Kind}
    (h : kind.collapses = true)
    (children : List Node) :
    Node.plainText (.mk kind children) = Node.plainTextAll children := by
  cases kind <;> simp [Kind.collapses, Kind.isInline] at h <;> simp only [Node.plainText]

mutual

/-- The nodes in the place of a node once chosen kinds are opened: a node of such a kind gives way
to its children, if it would collapse. -/
def Node.opened (opens : Kind → Bool) : Node → List Node
  | .mk kind children =>
      if kind.collapses && opens kind then Node.openedAll opens children
      else [.mk kind (Node.openedAll opens children)]

def Node.openedAll (opens : Kind → Bool) : List Node → List Node
  | [] => []
  | node :: nodes => node.opened opens ++ Node.openedAll opens nodes

end

variable (opens : Kind → Bool)

mutual

theorem plainText_opened :
    ∀ node : Node, Node.plainTextAll (node.opened opens) = node.plainText
  | .mk kind children => by
      have hbelow := plainText_openedAll children
      rw [Node.opened]
      split
      case isTrue hopen =>
        have hkind := (Bool.and_eq_true_iff.mp hopen).1
        rw [hbelow, plainText_of_collapses hkind]
      case isFalse =>
        have hnode := plainText_congr kind hbelow
        rw [Node.plainTextAll, Node.plainTextAll, String.append_empty, hnode]

/-- Opening changes no text. -/
theorem plainText_openedAll :
    ∀ nodes : List Node, Node.plainTextAll (Node.openedAll opens nodes) = Node.plainTextAll nodes
  | [] => rfl
  | node :: nodes => by
      rw [Node.openedAll, plainTextAll_append, plainText_opened node, plainText_openedAll nodes,
        Node.plainTextAll]

end

end Opening

section Building

/-- The inline that is built from a node shows nothing but the text of its children. -/
theorem inline_congr
    (kind : Kind)
    {children children' : List Node}
    (h : Node.plainTextAll children = Node.plainTextAll children')
    (cx : Build.Context) :
    Build.inline (Node.mk kind children).inline cx =
      Build.inline (Node.mk kind children').inline cx := by
  cases kind <;>
    simp only [Node.inline, Build.inline, Build.inlineNode?, Inline.plainText, Inline.kindName,
      plainText_inlines, h]

theorem block_heading
    (level : Nat)
    (children : List Node)
    (cx : Build.Context) :
    Build.block (Node.mk (.heading level) children).block cx =
      ([.heading cx.nextId level (Node.plainTextAll children)],
        (cx.record .trace "building heading").issue) := by
  simp only [Node.block, Build.block, plainText_inlines]
  rfl

end Building

section Delimiters

mutual

/-- The texts that nodes have of their own, in the order of the tree. -/
def Node.ownTexts : Node → List String
  | .mk kind children =>
      match kind with
      | .text s => [s]
      | .code literal => [literal]
      | .softBreak => [" "]
      | .lineBreak => ["\n"]
      | .htmlInline html => [html]
      | _ => Node.ownTextsAll children

def Node.ownTextsAll : List Node → List String
  | [] => []
  | node :: nodes => node.ownTexts ++ Node.ownTextsAll nodes

end

mutual

/-- The number of strikethroughs in a node, without those below a node with a text of its own. -/
def Node.strikes : Node → Nat
  | .mk kind children =>
      match kind with
      | .text _ | .code _ | .softBreak | .lineBreak | .htmlInline _ => 0
      | .strikethrough => 1 + Node.strikesAll children
      | _ => Node.strikesAll children

def Node.strikesAll : List Node → Nat
  | [] => 0
  | node :: nodes => node.strikes + Node.strikesAll nodes

end

/-- The number of delimiters that stand in texts. -/
def writtenDelimiters (texts : List String) : Nat :=
  (texts.flatMap String.toList).count Markup.strikethroughDelimiter

mutual

theorem count_plainText :
    ∀ node : Node,
      node.plainText.toList.count Markup.strikethroughDelimiter =
        2 * node.strikes + writtenDelimiters node.ownTexts
  | .mk kind children => by
      have hbelow := count_plainTextAll children
      cases kind
      case strikethrough =>
        have hmark : "~".toList.count Markup.strikethroughDelimiter = 1 := by decide
        simp only [Node.plainText, Node.strikes, Node.ownTexts, String.toList_append,
          List.count_append, hmark, hbelow]
        omega
      case text | code | softBreak | lineBreak | htmlInline =>
        simp [Node.plainText, Node.strikes, Node.ownTexts, writtenDelimiters]
      all_goals
        simp only [Node.plainText, Node.strikes, Node.ownTexts, hbelow]

theorem count_plainTextAll :
    ∀ nodes : List Node,
      (Node.plainTextAll nodes).toList.count Markup.strikethroughDelimiter =
        2 * Node.strikesAll nodes + writtenDelimiters (Node.ownTextsAll nodes)
  | [] => rfl
  | node :: nodes => by
      have hfirst := count_plainText node
      have hrest := count_plainTextAll nodes
      have hsplit : writtenDelimiters (node.ownTexts ++ Node.ownTextsAll nodes) =
          writtenDelimiters node.ownTexts + writtenDelimiters (Node.ownTextsAll nodes) := by
        rw [writtenDelimiters, List.flatMap_append, List.count_append]
        rfl
      rw [Node.plainTextAll, String.toList_append, List.count_append, hfirst, hrest,
        Node.strikesAll, Node.ownTextsAll, hsplit]
      omega

end

end Delimiters

/-- **Text.**  Lowering keeps the text of every node, of every run of nodes and of every cell of a
row, and each strikethrough in it, at whatever depth, gives it two delimiters.  Whether a kind
without a counterpart collapses or is opened, at whatever depth, is not seen in the text, nor in the
heading, the span, the link or the image that is built around it. -/
theorem lowering_keeps_text (opens : Kind → Bool) :
    (∀ node : Node, node.inline.plainText = node.plainText) ∧
    (∀ nodes : List Node,
      Inline.plainTextAll (Node.inlines nodes) = String.join (nodes.map Node.plainText)) ∧
    (∀ row : Node,
      row.row.map Inline.plainTextAll =
        row.children.map fun cell => String.join (cell.children.map Node.plainText)) ∧
    (∀ node : Node,
      node.inline.plainText.toList.count Markup.strikethroughDelimiter =
        2 * node.strikes + writtenDelimiters node.ownTexts) ∧
    (∀ nodes : List Node,
      Inline.plainTextAll (Node.inlines (Node.openedAll opens nodes)) =
        Inline.plainTextAll (Node.inlines nodes)) ∧
    (∀ level children cx,
      Build.block (Node.mk (.heading level) (Node.openedAll opens children)).block cx =
        Build.block (Node.mk (.heading level) children).block cx) ∧
    (∀ kind children cx,
      Build.inline (Node.mk kind (Node.openedAll opens children)).inline cx =
        Build.inline (Node.mk kind children).inline cx) := by
  refine ⟨plainText_inline, ?_, plainText_row, ?_, ?_, ?_, ?_⟩
  · intro nodes
    rw [plainText_inlines, plainTextAll_eq_join]
  · intro node
    rw [plainText_inline, count_plainText]
  · intro nodes
    rw [plainText_inlines, plainText_inlines, plainText_openedAll]
  · intro level children cx
    rw [block_heading, block_heading, plainText_openedAll]
  · intro kind children cx
    exact inline_congr kind (plainText_openedAll opens children) cx

-- A strikethrough in a superscript in a link keeps its delimiters, and so does one that is written.
example :
    (Node.mk (.link "a" "") [.mk .superscript [.mk .strikethrough [.text "b"], .leaf .softBreak],
      .text "~"]).inline.plainText = "~b~ ~" := by
  rfl

end Ast
end DocTree
