import DocTree.Proofs.Build.Account

/-!
# Which item owns a sublist

In the nested layout a sublist belongs to the paragraph that it follows in its source item, and a
sublist ahead of the first paragraph stands beside the items.  The builder finds the owner from the
left, with an item that it holds back.  The definitions here find it from the paragraph, by looking
ahead: a paragraph owns the lists up to the next paragraph (`listsAhead`), and nothing is held back.

`ownedList` gives a list node in this way, together with all lists below it.  There is no context in
it: the ids are counted on from a number, by the contents that the children of an item show.

The proof follows the builder through the children of a source item.  What is held back at a step
takes the lists ahead, whatever they are (`attach`), so the entries of the rest of a source item are
those lists, attached to what is held back, and then the items of the paragraphs to come
(`itemEntries_nested`).
-/

namespace DocTree

namespace Markup

/-- Whether a block is a paragraph. -/
def Block.isParagraph : Block → Bool
  | .paragraph _ => true
  | _ => false

end Markup

namespace Build

open DocTree.Tree (ListNode ListEntry)

section Numbering

/-- The nodes of a run of inlines, with ids from `k` on. -/
def inlineNodes (k : Nat) : List Markup.Inline → List Tree.Inline
  | [] => []
  | source :: content =>
      (inlineNode? ⟨k⟩ source).toList ++
        inlineNodes (k + (inlineContent? source).toList.length) content

/-- The node of a paragraph with the id `k`, and its inlines behind it. -/
def paragraphNode (k : Nat) (content : List Markup.Inline) : Tree.Paragraph :=
  ⟨⟨k⟩, inlineNodes (k + 1) content⟩

theorem inline_eq_inlineNode? (source : Markup.Inline) (cx : Context) :
    (inline source cx).1 = inlineNode? cx.nextId source := by
  unfold inline
  cases inlineNode? cx.nextId source <;> rfl

theorem inlines_eq_inlineNodes (content : List Markup.Inline) (cx : Context) :
    (inlines content cx).1 = inlineNodes cx.issued content := by
  induction content generalizing cx with
  | nil =>
      rfl
  | cons source content ih =>
      have hissued := (account_inline source cx).issued
      rw [inlines, inlineNodes, inline_eq_inlineNode?, ih, hissued]
      rfl

theorem paragraph_eq_paragraphNode (content : List Markup.Inline) (cx : Context) :
    (paragraph content cx).1 = paragraphNode cx.issued content := by
  rw [paragraph, inlines_eq_inlineNodes]
  rfl

end Numbering

section Owners

mutual

/-- The node of a child of an item, if the child is a list: it has a depth and the id `k`, and the
ids below it follow. -/
def childList (depth k : Nat) : Markup.Block → List ListNode
  | .list ordered items => [.mk ⟨k⟩ (listType ordered) depth (ownedEntries depth (k + 1) items)]
  | _ => []

/-- The lists among the children of an item that come ahead of the next paragraph, as nodes at a
depth, with ids from `k` on. -/
def listsAhead (depth k : Nat) : List Markup.Block → List ListNode
  | [] => []
  | .paragraph _ :: _ => []
  | child :: children =>
      childList depth k child ++ listsAhead depth (k + (childContents child).length) children

/-- An item for each paragraph among the children of an item of a list at a depth.  It owns the
lists between its paragraph and the next one. -/
def paragraphItems (depth k : Nat) : List Markup.Block → List ListEntry
  | [] => []
  | .paragraph content :: children =>
      .item ⟨k⟩ (paragraphNode (k + 1) content)
          (listsAhead (depth + 1) (k + (childContents (.paragraph content)).length) children) ::
        paragraphItems depth (k + (childContents (.paragraph content)).length) children
  | child :: children => paragraphItems depth (k + (childContents child).length) children

/-- The entries of a list at a depth, source item by source item: the lists ahead of the first
paragraph, then the items of the paragraphs. -/
def ownedEntries (depth k : Nat) : List (List Markup.Block) → List ListEntry
  | [] => []
  | item :: items =>
      (listsAhead (depth + 1) k item).map .sublist ++ paragraphItems depth k item ++
        ownedEntries depth (k + (itemContents item).length) items

end

/-- The node of a list at a depth with the id `k`, in which each paragraph owns the lists that
follow it in its source item. -/
def ownedList (depth k : Nat) (ordered : Bool) (items : List (List Markup.Block)) : ListNode :=
  .mk ⟨k⟩ (listType ordered) depth (ownedEntries depth (k + 1) items)

/-- The entries of some lists, given to the item that is held back if there is one. -/
def attach : Option HeldItem → List ListNode → List ListEntry
  | none, lists => lists.map .sublist
  | some held, lists => [.item held.id held.paragraph (held.sublists ++ lists)]

theorem attach_some (held : HeldItem) (lists : List ListNode) :
    attach (some held) lists = [.item held.id held.paragraph (held.sublists ++ lists)] := by
  rfl

theorem attach_nil (held : Option HeldItem) :
    attach held [] = flush held := by
  cases held with
  | none =>
      rfl
  | some held =>
      rw [attach, List.append_nil]
      rfl

/-- In the nested layout a sublist that is placed is the first of the lists that are attached. -/
theorem attach_placeSublist
    (sublist : ListNode)
    (held : Option HeldItem)
    {cx : Context}
    (hnested : cx.options.listLayout = .nested)
    (lists : List ListNode) :
    (placeSublist sublist held cx).pushed ++ attach (placeSublist sublist held cx).held lists =
      attach held (sublist :: lists) := by
  unfold placeSublist
  rw [hnested]
  cases held with
  | none =>
      rfl
  | some owner =>
      simp only [attach, List.nil_append, List.append_assoc, List.singleton_append]

mutual

/-- A step through one child.  What it pushes, and what the children behind it give to what it holds
back, is what the child and those behind it give to what was held back before. -/
theorem listChild_nested :
    ∀ (child : Markup.Block) (children : List Markup.Block) (depth : Nat)
      (held : Option HeldItem) (cx : Context),
      cx.options.listLayout = .nested →
        (listChild child depth held cx).pushed ++
            (attach (listChild child depth held cx).held
                (listsAhead (depth + 1) (cx.issued + (childContents child).length) children) ++
              paragraphItems depth (cx.issued + (childContents child).length) children) =
          attach held (listsAhead (depth + 1) cx.issued (child :: children)) ++
            paragraphItems depth cx.issued (child :: children)
  | .paragraph content, children, depth, held, cx, _ => by
      -- The paragraph gives up what was held back, and its own item is held back instead.
      have hlead := paragraph_eq_paragraphNode content cx.issue
      simp only [listChild, listsAhead, paragraphItems, attach_nil, attach_some, hlead,
        List.nil_append, List.singleton_append]
      rfl
  | .list ordered items, children, depth, held, cx, hnested => by
      have hbelow := listItems_nested items (depth + 1) cx.issue hnested
      have hlast : (list ordered items (depth + 1) cx).2.options.listLayout = .nested := by
        rw [options_list, hnested]
      rw [listChild_list, ← List.append_assoc, attach_placeSublist _ held hlast]
      simp only [list, hbelow, listsAhead, childList, paragraphItems, List.singleton_append]
      rfl
  | .heading _ _, children, depth, held, cx, _
  | .codeBlock _ _, children, depth, held, cx, _
  | .blockQuote _, children, depth, held, cx, _
  | .table _, children, depth, held, cx, _
  | .other _ _, children, depth, held, cx, _ => by
      simp only [listChild, listsAhead, childList, paragraphItems, childContents, List.length_nil,
        Nat.add_zero, List.nil_append]

/-- The entries of the rest of a source item: the lists ahead go to what is held back, and the
paragraphs to come give items of their own. -/
theorem itemEntries_nested :
    ∀ (children : List Markup.Block) (depth : Nat) (held : Option HeldItem) (cx : Context),
      cx.options.listLayout = .nested →
        (itemEntries children depth held cx).1 =
          attach held (listsAhead (depth + 1) cx.issued children) ++
            paragraphItems depth cx.issued children
  | [], depth, held, cx, _ => by
      rw [itemEntries, listsAhead, paragraphItems, attach_nil, List.append_nil]
  | child :: children, depth, held, cx, hnested => by
      have hstep := listChild_nested child children depth held cx hnested
      have hrest := itemEntries_nested children depth (listChild child depth held cx).held
        (listChild child depth held cx).context (by rw [options_listChild, hnested])
      rw [issued_listChild] at hrest
      simp only [itemEntries, hrest, hstep]

/-- The entries of a list; nothing is held back between two source items. -/
theorem listItems_nested :
    ∀ (items : List (List Markup.Block)) (depth : Nat) (cx : Context),
      cx.options.listLayout = .nested →
        (listItems items depth cx).1 = ownedEntries depth cx.issued items
  | [], depth, cx, _ => by
      rw [listItems, ownedEntries]
  | item :: items, depth, cx, hnested => by
      have hfirst := itemEntries_nested item depth none cx hnested
      have hrest := listItems_nested items depth (itemEntries item depth none cx).2
        (by rw [options_itemEntries, hnested])
      rw [issued_itemEntries] at hrest
      simp only [listItems, ownedEntries, hfirst, hrest, attach]

end

theorem list_nested
    (ordered : Bool)
    (items : List (List Markup.Block))
    (depth : Nat)
    (cx : Context)
    (hnested : cx.options.listLayout = .nested) :
    (list ordered items depth cx).1 = ownedList depth cx.issued ordered items := by
  rw [list, listItems_nested items depth cx.issue hnested]
  rfl

end Owners

section Counting

theorem filter_isItem_sublists (lists : List ListNode) :
    (lists.map ListEntry.sublist).filter ListEntry.isItem = [] := by
  simp [ListEntry.isItem]

/-- Every entry that a paragraph gives is an item, and every paragraph gives one. -/
theorem length_paragraphItems (depth k : Nat) (children : List Markup.Block) :
    ((paragraphItems depth k children).filter ListEntry.isItem).length =
      (children.filter Markup.Block.isParagraph).length := by
  induction children generalizing k with
  | nil =>
      simp only [paragraphItems, List.filter_nil, List.length_nil]
  | cons child children ih =>
      cases child with
      | paragraph content =>
          simp only [paragraphItems, ListEntry.isItem, Markup.Block.isParagraph, List.filter_cons,
            if_true, List.length_cons, ih]
      | heading _ _ | codeBlock _ _ | list _ _ | blockQuote _ | table _ | other _ _ =>
          simp only [paragraphItems, Markup.Block.isParagraph, List.filter_cons, ih,
            Bool.false_eq_true, if_false]

theorem length_items_ownedEntries (depth k : Nat) (items : List (List Markup.Block)) :
    ((ownedEntries depth k items).filter ListEntry.isItem).length =
      (items.flatten.filter Markup.Block.isParagraph).length := by
  induction items generalizing k with
  | nil =>
      simp only [ownedEntries, List.flatten_nil, List.filter_nil, List.length_nil]
  | cons item items ih =>
      simp only [ownedEntries, List.flatten_cons, List.filter_append, List.length_append,
        filter_isItem_sublists, length_paragraphItems, ih, List.length_nil, Nat.zero_add]

/-- **Ownership.**  In the nested layout a list holds, source item by source item, the lists ahead
of the first paragraph and then an item for each paragraph, which owns the lists between it and the
next paragraph of its source item.  So it is in every list below, and a list has as many items as
its source items have paragraphs. -/
theorem sublists_follow_owner
    (ordered : Bool)
    (items : List (List Markup.Block))
    (depth : Nat)
    (cx : Context)
    (hnested : cx.options.listLayout = .nested) :
    (list ordered items depth cx).1 = ownedList depth cx.issued ordered items ∧
      ∀ (depth' k : Nat) (ordered' : Bool) (items' : List (List Markup.Block)),
        (ownedList depth' k ordered' items').items.length =
          (items'.flatten.filter Markup.Block.isParagraph).length := by
  constructor
  · exact list_nested ordered items depth cx hnested
  · intro depth' k ordered' items'
    exact length_items_ownedEntries depth' (k + 1) items'

/-- A list leads the first item, a heading stands between two lists of one owner, the second item is
empty, and the third has no paragraph. -/
theorem sublists_follow_owner_heading :
    let cx : Context := Context.new ⟨.nested, .reference⟩
    let items : List (List Markup.Block) :=
      [[.list true [[.paragraph []]], .paragraph [.text "a"], .list false [], .heading 1 [],
        .list true [], .paragraph []], [], [.list false []]]
    cx.options.listLayout = .nested ∧
      (list false items 0 cx).1 =
        .mk ⟨0⟩ .unordered 0
          [.sublist (.mk ⟨1⟩ .ordered 1 [.item ⟨2⟩ ⟨⟨3⟩, []⟩ []]),
            .item ⟨4⟩ ⟨⟨5⟩, [.span .text ⟨6⟩ "a"]⟩
              [.mk ⟨7⟩ .unordered 1 [], .mk ⟨8⟩ .ordered 1 []],
            .item ⟨9⟩ ⟨⟨10⟩, []⟩ [],
            .sublist (.mk ⟨11⟩ .unordered 1 [])] ∧
      (ownedList 0 0 false items).items.length = 2 := by
  intro cx items
  have hnested : cx.options.listLayout = .nested := by
    rfl
  obtain ⟨hlist, hcount⟩ := sublists_follow_owner false items 0 cx hnested
  exact ⟨hnested, hlist, hcount 0 0 false items⟩

end Counting

end Build
end DocTree
