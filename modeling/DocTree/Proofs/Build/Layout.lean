import DocTree.Proofs.Build.Frame
import DocTree.Tree.Walk

/-!
# The two layouts of nested lists

The layouts differ only by where a sublist stands.  `Tree.Root.hoist` takes every sublist out of the
item that owns it and puts it behind the item, inside the enclosing list.  Hoisting a tree that was
built with any layout gives the tree of the flattened layout, with the same ids, depths and
payloads, and the two builds report the same.

The proof compares two runs of the list builder in step.  They do not hold back the same item: the
flattened run lets go of an item before its first sublist, the nested run keeps it until the next
paragraph.  What agrees at each step is what the entries grow by, once they are hoisted
(`hoist_listChild`).
-/

namespace DocTree

namespace Tree

mutual

/-- Hoist the sublists in a list. -/
def ListNode.hoist : ListNode → ListNode
  | .mk id type depth entries => .mk id type depth (ListEntry.hoistAll entries)

/-- An entry without sublists of its own, followed by the hoisted sublists it had. -/
def ListEntry.hoist : ListEntry → List ListEntry
  | .item id paragraph sublists => .item id paragraph [] :: ListNode.hoistAll sublists
  | .sublist list => [.sublist (ListNode.hoist list)]

/-- The entries of a list, hoisted one after the other. -/
def ListEntry.hoistAll : List ListEntry → List ListEntry
  | [] => []
  | entry :: entries => ListEntry.hoist entry ++ ListEntry.hoistAll entries

/-- Hoisted sublists as entries of the enclosing list. -/
def ListNode.hoistAll : List ListNode → List ListEntry
  | [] => []
  | list :: lists => .sublist (ListNode.hoist list) :: ListNode.hoistAll lists

end

@[simp] theorem ListEntry.hoistAll_append (entries entries' : List ListEntry) :
    ListEntry.hoistAll (entries ++ entries') =
      ListEntry.hoistAll entries ++ ListEntry.hoistAll entries' := by
  induction entries with
  | nil =>
      rfl
  | cons entry entries ih =>
      simp [ListEntry.hoistAll, ih]

@[simp] theorem ListNode.hoistAll_append (lists lists' : List ListNode) :
    ListNode.hoistAll (lists ++ lists') =
      ListNode.hoistAll lists ++ ListNode.hoistAll lists' := by
  induction lists with
  | nil =>
      rfl
  | cons list lists ih =>
      simp [ListNode.hoistAll, ih]

mutual

/-- Hoist the sublists in a block, inside quotes too. -/
def Block.hoist : Block → Block
  | .heading id level text => .heading id level text
  | .paragraph p => .paragraph p
  | .codeBlock id language code => .codeBlock id language code
  | .list l => .list l.hoist
  | .table t => .table t
  | .blockQuote id children => .blockQuote id (Block.hoistAll children)

/-- Hoist the sublists in a run of blocks. -/
def Block.hoistAll : List Block → List Block
  | [] => []
  | b :: bs => Block.hoist b :: Block.hoistAll bs

end

@[simp] theorem Block.hoistAll_append (blocks blocks' : List Block) :
    Block.hoistAll (blocks ++ blocks') = Block.hoistAll blocks ++ Block.hoistAll blocks' := by
  induction blocks with
  | nil =>
      rfl
  | cons block blocks ih =>
      simp [Block.hoistAll, ih]

/-- Hoist the sublists in a tree. -/
def Root.hoist (root : Root) : Root :=
  { root with children := Block.hoistAll root.children }

end Tree

namespace Build

open DocTree.Tree (ListNode ListEntry)

/-- A context whose layout leaves sublists beside the items. -/
abbrev Context.flattened (cx : Context) : Context :=
  cx.mapOptions fun options => { options with listLayout := .flattened }

section Lists

/-- Wherever a sublist is placed, hoisting finds it behind everything that was held back. -/
theorem hoist_placeSublist
    (sublist : ListNode)
    (held : Option HeldItem)
    (cx : Context) :
    ListEntry.hoistAll (placeSublist sublist held cx).entries =
      ListEntry.hoistAll (flush held) ++ [.sublist sublist.hoist] := by
  unfold placeSublist
  split
  · simp [ListStep.entries, flush, ListEntry.hoistAll, ListEntry.hoist, ListNode.hoistAll]
  · simp [ListStep.entries, flush, ListEntry.hoistAll, ListEntry.hoist]

/-- In a flattened layout nothing is held back from a sublist on. -/
theorem placeSublist_flattened
    (sublist : ListNode)
    (held : Option HeldItem)
    (cx : Context) :
    placeSublist sublist held cx.flattened =
      ⟨flush held ++ [.sublist sublist], none, cx.flattened⟩ := by
  simp [placeSublist]

/-- Two runs of the list builder from their held items on, the first in any layout and the second
in the flattened one: up to hoisting, they add the same entries. -/
def Agree
    (held held' : Option HeldItem)
    (built built' : List ListEntry × Context) : Prop :=
  built'.2 = built.2.flattened ∧
    ∃ added,
      ListEntry.hoistAll built.1 = ListEntry.hoistAll (flush held) ++ added ∧
        built'.1 = flush held' ++ added

/-- A step through the children of a source item, and the run through the rest of them. -/
theorem Agree.append
    {held held' : Option HeldItem}
    {step step' : ListStep}
    {rest rest' : List ListEntry × Context}
    (h : Agree held held' (step.entries, step.context) (step'.entries, step'.context))
    (h' : Agree step.held step'.held rest rest') :
    Agree held held' (step.pushed ++ rest.1, rest.2) (step'.pushed ++ rest'.1, rest'.2) := by
  obtain ⟨_, added, hhoist, hflat⟩ := h
  obtain ⟨hcontext, added', hhoist', hflat'⟩ := h'
  refine ⟨hcontext, added ++ added', ?_, ?_⟩
  · exact ListStep.view_append ListEntry.hoistAll ListEntry.hoistAll_append hhoist hhoist'
  · exact ListStep.view_append id (fun _ _ => rfl) hflat hflat'

/-- A dropped child adds nothing in either run. -/
theorem agree_drop
    (child : Markup.Block)
    (depth : Nat)
    (held held' : Option HeldItem)
    (cx : Context) :
    Agree held held'
      (flush held, cx.report (.listChildDrop child.kindName depth))
      (flush held', cx.flattened.report (.listChildDrop child.kindName depth)) :=
  ⟨rfl, [], by rw [List.append_nil], by rw [List.append_nil]⟩

mutual

/-- The step through one child, in both runs. -/
theorem hoist_listChild :
    ∀ (child : Markup.Block) (depth : Nat) (held held' : Option HeldItem) (cx : Context),
      Agree held held'
        ((listChild child depth held cx).entries,
          (listChild child depth held cx).context)
        ((listChild child depth held' cx.flattened).entries,
          (listChild child depth held' cx.flattened).context)
  | .paragraph content, depth, held, held', cx => by
      simp only [listChild, issue_mapOptions, nextId_mapOptions, paragraph_mapOptions]
      refine ⟨rfl, [.item cx.nextId (paragraph content cx.issue).1 []], ?_, ?_⟩
      · simp [ListStep.entries, flush, ListEntry.hoistAll, ListEntry.hoist, ListNode.hoistAll]
      · simp [ListStep.entries, flush]
  | .list ordered items, depth, held, held', cx => by
      have hbelow := hoist_listItems items (depth + 1) cx.issue
      simp only [listChild, issue_mapOptions, nextId_mapOptions, hbelow, placeSublist_flattened]
      -- The first run may go on holding its item; the second lets go of what it held.
      refine ⟨by rw [context_placeSublist], _, hoist_placeSublist _ held _, ?_⟩
      simp [ListStep.entries, flush, ListNode.hoist]
  | .heading level content, depth, held, held', cx =>
      agree_drop (.heading level content) depth held held' cx
  | .codeBlock info literal, depth, held, held', cx =>
      agree_drop (.codeBlock info literal) depth held held' cx
  | .blockQuote children, depth, held, held', cx =>
      agree_drop (.blockQuote children) depth held held' cx
  | .table source, depth, held, held', cx =>
      agree_drop (.table source) depth held held' cx
  | .other name children, depth, held, held', cx =>
      agree_drop (.other name children) depth held held' cx

/-- The runs through the rest of a source item, whatever the two of them hold back. -/
theorem hoist_itemEntries :
    ∀ (children : List Markup.Block) (depth : Nat) (held held' : Option HeldItem) (cx : Context),
      Agree held held'
        (itemEntries children depth held cx) (itemEntries children depth held' cx.flattened)
  | [], depth, held, held', cx => by
      simp only [itemEntries]
      exact ⟨rfl, [], by rw [List.append_nil], by rw [List.append_nil]⟩
  | child :: children, depth, held, held', cx => by
      have hstep := hoist_listChild child depth held held' cx
      have hrest :=
        hoist_itemEntries children depth (listChild child depth held cx).held
          (listChild child depth held' cx.flattened).held
          (listChild child depth held cx).context
      have hcontext : (listChild child depth held' cx.flattened).context =
          (listChild child depth held cx).context.flattened := hstep.1
      simp only [itemEntries, hcontext]
      exact hstep.append hrest

/-- The two runs through the source items of a list. -/
theorem hoist_listItems :
    ∀ (items : List (List Markup.Block)) (depth : Nat) (cx : Context),
      listItems items depth cx.flattened =
        (ListEntry.hoistAll (listItems items depth cx).1,
          (listItems items depth cx).2.flattened)
  | [], depth, cx => rfl
  | item :: items, depth, cx => by
      obtain ⟨hcontext, added, hhoist, hflat⟩ := hoist_itemEntries item depth none none cx
      have hrest := hoist_listItems items depth (itemEntries item depth none cx).2
      simp only [flush, ListEntry.hoistAll, List.nil_append] at hhoist hflat
      simp only [listItems, hcontext, hflat, hrest, ListEntry.hoistAll_append, hhoist]

end

theorem hoist_list
    (ordered : Bool)
    (items : List (List Markup.Block))
    (depth : Nat)
    (cx : Context) :
    list ordered items depth cx.flattened =
      ((list ordered items depth cx).1.hoist, (list ordered items depth cx).2.flattened) := by
  simp only [list, issue_mapOptions, nextId_mapOptions, hoist_listItems, ListNode.hoist]

end Lists

section Blocks

mutual

theorem hoist_block :
    ∀ (source : Markup.Block) (cx : Context),
      block source cx.flattened =
        (Tree.Block.hoistAll (block source cx).1, (block source cx).2.flattened)
  | .heading level content, cx => rfl
  | .paragraph content, cx => by
      simp [block, Tree.Block.hoistAll, Tree.Block.hoist]
  | .codeBlock info literal, cx => rfl
  | .list ordered items, cx => by
      simp [block, hoist_list, Tree.Block.hoistAll, Tree.Block.hoist]
  | .blockQuote children, cx => by
      simp [block, hoist_blocks children, Tree.Block.hoistAll, Tree.Block.hoist]
  | .table source, cx => by
      simp [block, Tree.Block.hoistAll, Tree.Block.hoist]
  | .other name children, cx => by
      simp [block, hoist_blocks children]

theorem hoist_blocks :
    ∀ (source : List Markup.Block) (cx : Context),
      blocks source cx.flattened =
        (Tree.Block.hoistAll (blocks source cx).1, (blocks source cx).2.flattened)
  | [], cx => rfl
  | b :: bs, cx => by
      simp only [blocks, hoist_block b, hoist_blocks bs, Tree.Block.hoistAll_append]

end

/-- Hoisting the tree of any layout gives the tree of the flattened layout. -/
theorem hoist_buildRoot (doc : Markup.Document) (options : Options) :
    buildRoot doc { options with listLayout := .flattened } =
      ((buildRoot doc options).1.hoist, (buildRoot doc options).2.flattened) := by
  have hchildren := hoist_blocks doc.children (Context.new options).issue
  have hstart : Context.new { options with listLayout := .flattened } =
      (Context.new options).flattened := by
    rfl
  simp only [buildRoot, hstart, issue_mapOptions, nextId_mapOptions, hchildren, Tree.Root.hoist]

/-- **Layouts.**  The nested layout gives the tree of the flattened one once its sublists are
hoisted, and both report the same. -/
theorem hoist_build_nested (doc : Markup.Document) (mode : CodeTrim) :
    (build doc ⟨.nested, mode⟩).root.hoist = (build doc ⟨.flattened, mode⟩).root ∧
      (build doc ⟨.nested, mode⟩).diagnostics = (build doc ⟨.flattened, mode⟩).diagnostics := by
  have hroot := hoist_buildRoot doc ⟨.nested, mode⟩
  simp only at hroot
  constructor
  · simp only [build, hroot]
  · simp only [build, hroot, diagnostics_mapOptions]

-- An item keeps both sublists that follow it, although a dropped heading stands between them.
example :
    let built := build
      ⟨[.list false [[.paragraph [], .list true [], .heading 1 [], .list true []]]]⟩
      ⟨.nested, .reference⟩
    built.root.children =
        [.list (.mk ⟨1⟩ .unordered 0
          [.item ⟨2⟩ ⟨⟨3⟩, []⟩ [.mk ⟨4⟩ .ordered 1 [], .mk ⟨5⟩ .ordered 1 []]])] ∧
      built.root.hoist.children =
        [.list (.mk ⟨1⟩ .unordered 0
          [.item ⟨2⟩ ⟨⟨3⟩, []⟩ [], .sublist (.mk ⟨4⟩ .ordered 1 []),
            .sublist (.mk ⟨5⟩ .ordered 1 [])])] := by
  constructor <;> rfl

end Blocks

end Build
end DocTree
