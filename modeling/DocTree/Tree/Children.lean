import DocTree.Tree.Basic

/-!
# Filters by kind on a sequence of children

Builders only append.  The operations here are for consumers that reshape a tree after it has been
built: they look for the children of a kind, or take them out.
-/

namespace DocTree
namespace Tree
namespace Children

variable {α : Type} [Node α]

/-- Whether a node is of a kind. -/
def isKind (kind : NodeKind) (node : α) : Bool :=
  Node.kind node == kind

/-- The first child of a kind. -/
def firstOf (kind : NodeKind) (children : List α) : Option α :=
  children.find? (isKind kind)

/-- All children of a kind, in order. -/
def allOf (kind : NodeKind) (children : List α) : List α :=
  children.filter (isKind kind)

/-- The first child of a kind, if there is one, and the children without it: its position is looked
up, and what stands there is taken out. -/
def removeFirst (kind : NodeKind) (children : List α) : Option α × List α :=
  match children.findIdx? (isKind kind) with
  | some index => (children[index]?, children.eraseIdx index)
  | none => (none, children)

/-- How many children are of a kind, and the children that are not. -/
def removeAll (kind : NodeKind) (children : List α) : Nat × List α :=
  let rest := children.filter fun node => !isKind kind node
  (children.length - rest.length, rest)

end Children
end Tree
end DocTree
