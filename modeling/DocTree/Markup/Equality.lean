import DocTree.Markup.Basic

/-!
# Deciding equality of parsed documents

`Inline.same` and `Block.same` compare nodes part by part.  They decide equality
(`Inline.same_iff`, `Block.same_iff`), which gives the instances of `DecidableEq`.
-/

namespace DocTree
namespace Markup

mutual

/-- Whether two inlines agree part by part. -/
def Inline.same : Inline → Inline → Bool
  | .text s, .text s' => s == s'
  | .strong xs, .strong xs' => Inline.sameAll xs xs'
  | .emphasis xs, .emphasis xs' => Inline.sameAll xs xs'
  | .strikethrough xs, .strikethrough xs' => Inline.sameAll xs xs'
  | .code s, .code s' => s == s'
  | .link d t xs, .link d' t' xs' => d == d' && t == t' && Inline.sameAll xs xs'
  | .image d t xs, .image d' t' xs' => d == d' && t == t' && Inline.sameAll xs xs'
  | .other n s, .other n' s' => n == n' && s == s'
  | _, _ => false

/-- Whether two runs of inlines agree one by one. -/
def Inline.sameAll : List Inline → List Inline → Bool
  | [], [] => true
  | x :: xs, x' :: xs' => Inline.same x x' && Inline.sameAll xs xs'
  | _, _ => false

end

mutual

theorem Inline.same_iff : ∀ x y : Inline, x.same y = true ↔ x = y
  | .text _, y => by cases y <;> simp [Inline.same]
  | .strong xs, y => by cases y <;> simp [Inline.same, Inline.sameAll_iff xs]
  | .emphasis xs, y => by cases y <;> simp [Inline.same, Inline.sameAll_iff xs]
  | .strikethrough xs, y => by cases y <;> simp [Inline.same, Inline.sameAll_iff xs]
  | .code _, y => by cases y <;> simp [Inline.same]
  | .link _ _ xs, y => by cases y <;> simp [Inline.same, Inline.sameAll_iff xs, and_assoc]
  | .image _ _ xs, y => by cases y <;> simp [Inline.same, Inline.sameAll_iff xs, and_assoc]
  | .other _ _, y => by cases y <;> simp [Inline.same]

theorem Inline.sameAll_iff : ∀ xs ys : List Inline, Inline.sameAll xs ys = true ↔ xs = ys
  | [], ys => by cases ys <;> simp [Inline.sameAll]
  | x :: xs, ys => by
      cases ys <;> simp [Inline.sameAll, Inline.same_iff x, Inline.sameAll_iff xs]

end

instance : DecidableEq Inline :=
  fun x y => decidable_of_iff _ (Inline.same_iff x y)

deriving instance DecidableEq for Table

mutual

/-- Whether two blocks agree part by part. -/
def Block.same : Block → Block → Bool
  | .heading l xs, .heading l' xs' => l == l' && xs == xs'
  | .paragraph xs, .paragraph xs' => xs == xs'
  | .codeBlock i s, .codeBlock i' s' => i == i' && s == s'
  | .list o is, .list o' is' => o == o' && Block.sameItems is is'
  | .blockQuote bs, .blockQuote bs' => Block.sameAll bs bs'
  | .table t, .table t' => t == t'
  | .other n bs, .other n' bs' => n == n' && Block.sameAll bs bs'
  | _, _ => false

/-- Whether two runs of blocks agree one by one. -/
def Block.sameAll : List Block → List Block → Bool
  | [], [] => true
  | b :: bs, b' :: bs' => Block.same b b' && Block.sameAll bs bs'
  | _, _ => false

/-- Whether the items of two lists agree one by one. -/
def Block.sameItems : List (List Block) → List (List Block) → Bool
  | [], [] => true
  | i :: is, i' :: is' => Block.sameAll i i' && Block.sameItems is is'
  | _, _ => false

end

mutual

theorem Block.same_iff : ∀ x y : Block, x.same y = true ↔ x = y
  | .heading _ _, y => by cases y <;> simp [Block.same]
  | .paragraph _, y => by cases y <;> simp [Block.same]
  | .codeBlock _ _, y => by cases y <;> simp [Block.same]
  | .list _ is, y => by cases y <;> simp [Block.same, Block.sameItems_iff is]
  | .blockQuote bs, y => by cases y <;> simp [Block.same, Block.sameAll_iff bs]
  | .table _, y => by cases y <;> simp [Block.same]
  | .other _ bs, y => by cases y <;> simp [Block.same, Block.sameAll_iff bs]

theorem Block.sameAll_iff : ∀ xs ys : List Block, Block.sameAll xs ys = true ↔ xs = ys
  | [], ys => by cases ys <;> simp [Block.sameAll]
  | x :: xs, ys => by cases ys <;> simp [Block.sameAll, Block.same_iff x, Block.sameAll_iff xs]

theorem Block.sameItems_iff :
    ∀ xs ys : List (List Block), Block.sameItems xs ys = true ↔ xs = ys
  | [], ys => by cases ys <;> simp [Block.sameItems]
  | x :: xs, ys => by
      cases ys <;> simp [Block.sameItems, Block.sameAll_iff x, Block.sameItems_iff xs]

end

instance : DecidableEq Block :=
  fun x y => decidable_of_iff _ (Block.same_iff x y)

deriving instance DecidableEq for Document

end Markup
end DocTree
