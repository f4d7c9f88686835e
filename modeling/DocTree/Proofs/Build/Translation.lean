import DocTree.Build.Conversion
import DocTree.Proofs.Build.Rows

/-!
# Builds that go on from earlier ones

A builder reads the options of its context, takes the ids that come next and appends to what was
reported.  So what was done in a context before can change nothing that is built in it, except that
all ids are shifted by the number of ids issued before.

`Context.behind` puts a context behind an earlier one: its ids are counted on from there, and its
reports follow those made there.  Every builder commutes with this (`blocks_behind` and the lemmas
before it), and a context is a fresh one behind itself (`new_behind`).
-/

namespace DocTree

namespace Tree

section Shift

variable (k : Nat)

/-- An id with a number added to it. -/
def NodeId.shift (id : NodeId) : NodeId :=
  ⟨k + id.index⟩

/-- An inline with a number added to its id. -/
def Inline.shift : Inline → Inline
  | .span style id text => .span style (id.shift k) text
  | .link id text destination => .link (id.shift k) text destination
  | .image id text source => .image (id.shift k) text source

/-- A paragraph with a number added to every id in it. -/
def Paragraph.shift (paragraph : Paragraph) : Paragraph :=
  ⟨paragraph.id.shift k, paragraph.children.map (Inline.shift k)⟩

mutual

/-- A list with a number added to every id in it. -/
def ListNode.shift : ListNode → ListNode
  | .mk id type depth entries => .mk (id.shift k) type depth (ListEntry.shiftAll entries)

/-- An entry of a list with a number added to every id in it. -/
def ListEntry.shift : ListEntry → ListEntry
  | .item id paragraph sublists =>
      .item (id.shift k) (paragraph.shift k) (ListNode.shiftAll sublists)
  | .sublist list => .sublist (ListNode.shift list)

def ListEntry.shiftAll : List ListEntry → List ListEntry
  | [] => []
  | entry :: entries => ListEntry.shift entry :: ListEntry.shiftAll entries

def ListNode.shiftAll : List ListNode → List ListNode
  | [] => []
  | list :: lists => ListNode.shift list :: ListNode.shiftAll lists

end

/-- A table with a number added to every id in it, in all of its views. -/
def Table.shift (table : Table) : Table where
  id := table.id.shift k
  alignments := table.alignments
  headers := table.headers.map (Paragraph.shift k)
  body := table.body.map fun row => row.map (Paragraph.shift k)
  cells := table.cells.map (Paragraph.shift k)

mutual

/-- A block with a number added to every id in it. -/
def Block.shift : Block → Block
  | .heading id level text => .heading (id.shift k) level text
  | .paragraph p => .paragraph (p.shift k)
  | .codeBlock id language code => .codeBlock (id.shift k) language code
  | .list l => .list (l.shift k)
  | .table t => .table (t.shift k)
  | .blockQuote id children => .blockQuote (id.shift k) (Block.shiftAll children)

def Block.shiftAll : List Block → List Block
  | [] => []
  | b :: bs => Block.shift b :: Block.shiftAll bs

end

@[simp] theorem ListEntry.shiftAll_append
    (entries entries' : List ListEntry) :
    ListEntry.shiftAll k (entries ++ entries') =
      ListEntry.shiftAll k entries ++ ListEntry.shiftAll k entries' := by
  induction entries with
  | nil =>
      rfl
  | cons entry entries ih =>
      simp [ListEntry.shiftAll, ih]

@[simp] theorem ListNode.shiftAll_append
    (lists lists' : List ListNode) :
    ListNode.shiftAll k (lists ++ lists') =
      ListNode.shiftAll k lists ++ ListNode.shiftAll k lists' := by
  induction lists with
  | nil =>
      rfl
  | cons list lists ih =>
      simp [ListNode.shiftAll, ih]

@[simp] theorem Block.shiftAll_append
    (blocks blocks' : List Block) :
    Block.shiftAll k (blocks ++ blocks') =
      Block.shiftAll k blocks ++ Block.shiftAll k blocks' := by
  induction blocks with
  | nil =>
      rfl
  | cons block blocks ih =>
      simp [Block.shiftAll, ih]

end Shift

end Tree

namespace Build

open DocTree.Tree (ListNode ListEntry)

/-- A context behind an earlier one: its ids are counted on from there, and what it reports and
logs follows what was reported and logged there. -/
def Context.behind (cx earlier : Context) : Context where
  issued := earlier.issued + cx.issued
  options := cx.options
  diagnostics := earlier.diagnostics ++ cx.diagnostics
  log := earlier.log ++ cx.log

section Context

variable (cx earlier : Context)

@[simp] theorem options_behind :
    (cx.behind earlier).options = cx.options := by
  rfl

@[simp] theorem nextId_behind :
    (cx.behind earlier).nextId = cx.nextId.shift earlier.issued := by
  rfl

@[simp] theorem issue_behind :
    (cx.behind earlier).issue = cx.issue.behind earlier := by
  rfl

@[simp] theorem record_behind
    (level : LogLevel)
    (message : String) :
    (cx.behind earlier).record level message = (cx.record level message).behind earlier := by
  simp [Context.record, Context.behind, Array.push_append]

@[simp] theorem report_behind
    (diagnostic : Diagnostic) :
    (cx.behind earlier).report diagnostic = (cx.report diagnostic).behind earlier := by
  simp [Context.report, Context.record, Context.behind, Array.push_append]

/-- A context is a fresh one behind itself. -/
theorem new_behind :
    (Context.new cx.options).behind cx = cx := by
  simp [Context.new, Context.behind]

end Context

section Builders

variable (earlier : Context)

theorem inlineNode?_shift
    (k : Nat)
    (id : Tree.NodeId)
    (source : Markup.Inline) :
    inlineNode? (id.shift k) source = (inlineNode? id source).map (Tree.Inline.shift k) := by
  cases source <;> rfl

theorem inline_behind
    (source : Markup.Inline)
    (cx : Context) :
    inline source (cx.behind earlier) =
      ((inline source cx).1.map (Tree.Inline.shift earlier.issued),
        (inline source cx).2.behind earlier) := by
  unfold inline
  rw [nextId_behind, inlineNode?_shift]
  cases inlineNode? cx.nextId source <;> simp

theorem inlines_behind
    (content : List Markup.Inline)
    (cx : Context) :
    inlines content (cx.behind earlier) =
      ((inlines content cx).1.map (Tree.Inline.shift earlier.issued),
        (inlines content cx).2.behind earlier) := by
  induction content generalizing cx with
  | nil =>
      rfl
  | cons source content ih =>
      simp only [inlines, inline_behind, ih, List.map_append, Option.toList_map]

@[simp] theorem paragraph_behind
    (content : List Markup.Inline)
    (cx : Context) :
    paragraph content (cx.behind earlier) =
      ((paragraph content cx).1.shift earlier.issued,
        (paragraph content cx).2.behind earlier) := by
  simp only [paragraph, issue_behind, nextId_behind, inlines_behind, Tree.Paragraph.shift]

theorem paragraphs_behind
    (cells : List Markup.Cell)
    (cx : Context) :
    paragraphs cells (cx.behind earlier) =
      ((paragraphs cells cx).1.map (Tree.Paragraph.shift earlier.issued),
        (paragraphs cells cx).2.behind earlier) := by
  induction cells generalizing cx with
  | nil =>
      rfl
  | cons cell cells ih =>
      simp only [paragraphs, paragraph_behind, ih, List.map_cons]

theorem rows_behind
    (source : List (List Markup.Cell))
    (cx : Context) :
    rows source (cx.behind earlier) =
      ((rows source cx).1.map (fun row => row.map (Tree.Paragraph.shift earlier.issued)),
        (rows source cx).2.behind earlier) := by
  induction source generalizing cx with
  | nil =>
      rfl
  | cons cells source ih =>
      simp only [rows, paragraphs_behind, ih, List.map_cons]

@[simp] theorem table_behind
    (source : Markup.Table)
    (cx : Context) :
    table source (cx.behind earlier) =
      ((table source cx).1.shift earlier.issued, (table source cx).2.behind earlier) := by
  simp only [table_eq_tableByRows, tableByRows, issue_behind, nextId_behind, paragraphs_behind,
    rows_behind, Tree.Table.shift, List.map_flatten]

end Builders

section Lists

variable (earlier : Context)

/-- A held item with a number added to every id in it. -/
def HeldItem.shift (k : Nat) (held : HeldItem) : HeldItem where
  id := held.id.shift k
  paragraph := held.paragraph.shift k
  sublists := ListNode.shiftAll k held.sublists

/-- A step through the children of a source item behind an earlier context. -/
def ListStep.behind (step : ListStep) (earlier : Context) : ListStep where
  pushed := ListEntry.shiftAll earlier.issued step.pushed
  held := step.held.map (HeldItem.shift earlier.issued)
  context := step.context.behind earlier

theorem flush_shift
    (k : Nat)
    (held : Option HeldItem) :
    flush (held.map (HeldItem.shift k)) = ListEntry.shiftAll k (flush held) := by
  cases held <;> rfl

theorem placeSublist_behind
    (sublist : ListNode)
    (held : Option HeldItem)
    (cx : Context) :
    placeSublist (sublist.shift earlier.issued)
        (held.map (HeldItem.shift earlier.issued)) (cx.behind earlier) =
      (placeSublist sublist held cx).behind earlier := by
  have hbeside :
      flush (held.map (HeldItem.shift earlier.issued)) ++
          [.sublist (sublist.shift earlier.issued)] =
        ListEntry.shiftAll earlier.issued (flush held ++ [.sublist sublist]) := by
    rw [flush_shift, ListEntry.shiftAll_append]
    rfl
  unfold placeSublist
  rw [options_behind]
  cases cx.options.listLayout with
  | flattened =>
      simp only [hbeside]
      rfl
  | nested =>
      cases held with
      | none =>
          rfl
      | some owner =>
          simp [ListStep.behind, HeldItem.shift, ListNode.shiftAll, ListEntry.shiftAll]

/-- A dropped child is reported, and the item that is held back stays. -/
theorem drop_behind
    (loss : Diagnostic)
    (held : Option HeldItem)
    (cx : Context) :
    (⟨[], held.map (HeldItem.shift earlier.issued), (cx.behind earlier).report loss⟩ : ListStep) =
      ListStep.behind ⟨[], held, cx.report loss⟩ earlier := by
  simp [ListStep.behind, ListEntry.shiftAll]

mutual

theorem listChild_behind :
    ∀ (child : Markup.Block) (depth : Nat) (held : Option HeldItem) (cx : Context),
      listChild child depth (held.map (HeldItem.shift earlier.issued)) (cx.behind earlier) =
        (listChild child depth held cx).behind earlier
  | .paragraph content, depth, held, cx => by
      simp only [listChild, issue_behind, nextId_behind, paragraph_behind, flush_shift]
      rfl
  | .list ordered items, depth, held, cx => by
      have hbelow := listItems_behind items (depth + 1) cx.issue
      simp only [listChild, issue_behind, nextId_behind, hbelow]
      exact placeSublist_behind earlier (.mk cx.nextId (listType ordered) (depth + 1) _) held _
  | .heading level content, depth, held, cx =>
      drop_behind earlier (.listChildDrop "heading" depth) held cx
  | .codeBlock info literal, depth, held, cx =>
      drop_behind earlier (.listChildDrop "code_block" depth) held cx
  | .blockQuote children, depth, held, cx =>
      drop_behind earlier (.listChildDrop "block_quote" depth) held cx
  | .table source, depth, held, cx =>
      drop_behind earlier (.listChildDrop "table" depth) held cx
  | .other name children, depth, held, cx =>
      drop_behind earlier (.listChildDrop name depth) held cx

theorem itemEntries_behind :
    ∀ (children : List Markup.Block) (depth : Nat) (held : Option HeldItem) (cx : Context),
      itemEntries children depth (held.map (HeldItem.shift earlier.issued))
          (cx.behind earlier) =
        (ListEntry.shiftAll earlier.issued (itemEntries children depth held cx).1,
          (itemEntries children depth held cx).2.behind earlier)
  | [], depth, held, cx => by
      rw [itemEntries, itemEntries, flush_shift]
  | child :: children, depth, held, cx => by
      have hstep := listChild_behind child depth held cx
      have hrest :=
        itemEntries_behind children depth
          (listChild child depth held cx).held (listChild child depth held cx).context
      simp only [itemEntries, hstep, ListStep.behind, hrest, ListEntry.shiftAll_append]

theorem listItems_behind :
    ∀ (items : List (List Markup.Block)) (depth : Nat) (cx : Context),
      listItems items depth (cx.behind earlier) =
        (ListEntry.shiftAll earlier.issued (listItems items depth cx).1,
          (listItems items depth cx).2.behind earlier)
  | [], depth, cx => rfl
  | item :: items, depth, cx => by
      have hfirst := itemEntries_behind item depth none cx
      have hrest := listItems_behind items depth (itemEntries item depth none cx).2
      rw [Option.map_none] at hfirst
      simp only [listItems, hfirst, hrest, ListEntry.shiftAll_append]

end

@[simp] theorem list_behind
    (ordered : Bool)
    (items : List (List Markup.Block))
    (depth : Nat)
    (cx : Context) :
    list ordered items depth (cx.behind earlier) =
      ((list ordered items depth cx).1.shift earlier.issued,
        (list ordered items depth cx).2.behind earlier) := by
  simp only [list, issue_behind, nextId_behind, listItems_behind, ListNode.shift]

end Lists

section Blocks

variable (earlier : Context)

mutual

theorem block_behind :
    ∀ (source : Markup.Block) (cx : Context),
      block source (cx.behind earlier) =
        (Tree.Block.shiftAll earlier.issued (block source cx).1,
          (block source cx).2.behind earlier)
  | .heading level content, cx => by
      simp [block, Tree.Block.shiftAll, Tree.Block.shift]
  | .paragraph content, cx => by
      simp [block, Tree.Block.shiftAll, Tree.Block.shift]
  | .codeBlock info literal, cx => by
      simp [block, Tree.Block.shiftAll, Tree.Block.shift]
  | .list ordered items, cx => by
      simp [block, Tree.Block.shiftAll, Tree.Block.shift]
  | .blockQuote children, cx => by
      simp [block, blocks_behind children, Tree.Block.shiftAll, Tree.Block.shift]
  | .table source, cx => by
      simp [block, Tree.Block.shiftAll, Tree.Block.shift]
  | .other name children, cx => by
      simp [block, blocks_behind children]

theorem blocks_behind :
    ∀ (source : List Markup.Block) (cx : Context),
      blocks source (cx.behind earlier) =
        (Tree.Block.shiftAll earlier.issued (blocks source cx).1,
          (blocks source cx).2.behind earlier)
  | [], cx => rfl
  | b :: bs, cx => by
      simp only [blocks, block_behind b, blocks_behind bs, Tree.Block.shiftAll_append]

end

end Blocks

end Build
end DocTree
