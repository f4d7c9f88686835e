import DocTree.Tree.Basic

/-!
# Deciding equality of semantic trees

Lists and blocks are compared part by part.  The comparisons decide equality, which gives the
instances of `DecidableEq`.
-/

namespace DocTree
namespace Tree

mutual

/-- Whether two lists agree part by part. -/
def ListNode.same : ListNode → ListNode → Bool
  | .mk id t d es, .mk id' t' d' es' =>
      id == id' && t == t' && d == d' && ListEntry.sameAll es es'

/-- Whether two entries agree part by part. -/
def ListEntry.same : ListEntry → ListEntry → Bool
  | .item id p ls, .item id' p' ls' => id == id' && p == p' && ListNode.sameAll ls ls'
  | .sublist l, .sublist l' => ListNode.same l l'
  | _, _ => false

/-- Whether the entries of two lists agree one by one. -/
def ListEntry.sameAll : List ListEntry → List ListEntry → Bool
  | [], [] => true
  | e :: es, e' :: es' => ListEntry.same e e' && ListEntry.sameAll es es'
  | _, _ => false

/-- Whether the sublists of two items agree one by one. -/
def ListNode.sameAll : List ListNode → List ListNode → Bool
  | [], [] => true
  | l :: ls, l' :: ls' => ListNode.same l l' && ListNode.sameAll ls ls'
  | _, _ => false

end

mutual

theorem ListNode.same_iff : ∀ x y : ListNode, x.same y = true ↔ x = y
  | .mk _ _ _ es, .mk _ _ _ es' => by
      simp [ListNode.same, ListEntry.sameAll_iff es es', and_assoc]

theorem ListEntry.same_iff : ∀ x y : ListEntry, x.same y = true ↔ x = y
  | .item _ _ ls, y => by cases y <;> simp [ListEntry.same, ListNode.sameAll_iff ls, and_assoc]
  | .sublist l, y => by cases y <;> simp [ListEntry.same, ListNode.same_iff l]

theorem ListEntry.sameAll_iff :
    ∀ xs ys : List ListEntry, ListEntry.sameAll xs ys = true ↔ xs = ys
  | [], ys => by cases ys <;> simp [ListEntry.sameAll]
  | x :: xs, ys => by
      cases ys <;> simp [ListEntry.sameAll, ListEntry.same_iff x, ListEntry.sameAll_iff xs]

theorem ListNode.sameAll_iff : ∀ xs ys : List ListNode, ListNode.sameAll xs ys = true ↔ xs = ys
  | [], ys => by cases ys <;> simp [ListNode.sameAll]
  | x :: xs, ys => by
      cases ys <;> simp [ListNode.sameAll, ListNode.same_iff x, ListNode.sameAll_iff xs]

end

instance : DecidableEq ListNode :=
  fun x y => decidable_of_iff _ (ListNode.same_iff x y)

instance : DecidableEq ListEntry :=
  fun x y => decidable_of_iff _ (ListEntry.same_iff x y)

mutual

/-- Whether two blocks agree part by part. -/
def Block.same : Block → Block → Bool
  | .heading id l s, .heading id' l' s' => id == id' && l == l' && s == s'
  | .paragraph p, .paragraph p' => p == p'
  | .codeBlock id l s, .codeBlock id' l' s' => id == id' && l == l' && s == s'
  | .list l, .list l' => l == l'
  | .table t, .table t' => t == t'
  | .blockQuote id bs, .blockQuote id' bs' => id == id' && Block.sameAll bs bs'
  | _, _ => false

/-- Whether two runs of blocks agree one by one. -/
def Block.sameAll : List Block → List Block → Bool
  | [], [] => true
  | b :: bs, b' :: bs' => Block.same b b' && Block.sameAll bs bs'
  | _, _ => false

end

mutual

theorem Block.same_iff : ∀ x y : Block, x.same y = true ↔ x = y
  | .heading _ _ _, y => by cases y <;> simp [Block.same, and_assoc]
  | .paragraph _, y => by cases y <;> simp [Block.same]
  | .codeBlock _ _ _, y => by cases y <;> simp [Block.same, and_assoc]
  | .list _, y => by cases y <;> simp [Block.same]
  | .table _, y => by cases y <;> simp [Block.same]
  | .blockQuote _ bs, y => by cases y <;> simp [Block.same, Block.sameAll_iff bs]

theorem Block.sameAll_iff : ∀ xs ys : List Block, Block.sameAll xs ys = true ↔ xs = ys
  | [], ys => by cases ys <;> simp [Block.sameAll]
  | x :: xs, ys => by cases ys <;> simp [Block.sameAll, Block.same_iff x, Block.sameAll_iff xs]

end

instance : DecidableEq Block :=
  fun x y => decidable_of_iff _ (Block.same_iff x y)

deriving instance DecidableEq for Root

end Tree
end DocTree
