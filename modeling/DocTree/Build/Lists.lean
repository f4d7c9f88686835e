import DocTree.Build.Inlines

/-!
# Building lists

Every paragraph directly under an item of the source becomes an item of its own, and every list
directly under it becomes a list one level deeper.  Any other child of an item is dropped and
reported.

The children of one source item are read from left to right.  The item of the last paragraph is
held back, so that it can still take sublists; it is pushed when the next paragraph comes, when a
sublist is placed beside it, or when the source item ends.
-/

namespace DocTree
namespace Build

open DocTree.Tree (NodeId ListNode ListEntry ListType)

/-- Numbering of a list. -/
def listType (ordered : Bool) : ListType :=
  if ordered then .ordered else .unordered

/-- An item that is held back. -/
structure HeldItem where
  id : NodeId
  paragraph : Tree.Paragraph
  sublists : List ListNode

/-- The entry of the item that is held back, if there is one. -/
def flush : Option HeldItem → List ListEntry
  | none => []
  | some held => [.item held.id held.paragraph held.sublists]

/-- Where a step through the children of a source item leads. -/
structure ListStep where
  /-- The entries that are pushed. -/
  pushed : List ListEntry
  /-- The item that is held back afterwards. -/
  held : Option HeldItem
  /-- The context afterwards. -/
  context : Context

/-- The entries of a step: those that are pushed, then the item that is held back. -/
def ListStep.entries (step : ListStep) : List ListEntry :=
  step.pushed ++ flush step.held

/-- A step and the entries that the rest of the source item pushes, read through a view that takes
entries one after the other: what the step adds comes first, then what the rest adds. -/
theorem ListStep.view_append {β : Type} (view : List ListEntry → List β)
    (hview : ∀ entries entries', view (entries ++ entries') = view entries ++ view entries')
    {step : ListStep} {rest : List ListEntry} {front added added' : List β}
    (hstep : view step.entries = front ++ added)
    (hrest : view rest = view (flush step.held) ++ added') :
    view (step.pushed ++ rest) = front ++ (added ++ added') := by
  rw [ListStep.entries, hview] at hstep
  rw [hview, hrest, ← List.append_assoc, hstep, List.append_assoc]

/-- Place a sublist that was built in a context: under the item that is held back if the layout
nests sublists and there is such an item, and beside it otherwise. -/
def placeSublist (sublist : ListNode) (held : Option HeldItem) (cx : Context) : ListStep :=
  match cx.options.listLayout, held with
  | .nested, some owner =>
      ⟨[], some { owner with sublists := owner.sublists ++ [sublist] }, cx⟩
  | _, _ => ⟨flush held ++ [.sublist sublist], none, cx⟩

@[simp] theorem context_placeSublist (sublist : ListNode) (held : Option HeldItem)
    (cx : Context) :
    (placeSublist sublist held cx).context = cx := by
  unfold placeSublist
  split <;> rfl

mutual

/-- Read one child of a source item of a list at a depth. -/
def listChild : Markup.Block → Nat → Option HeldItem → Context → ListStep
  | .paragraph content, _, held, cx =>
      let lead := paragraph content cx.issue
      ⟨flush held, some ⟨cx.nextId, lead.1, []⟩, lead.2⟩
  | .list ordered items, depth, held, cx =>
      let entries := listItems items (depth + 1) cx.issue
      placeSublist (.mk cx.nextId (listType ordered) (depth + 1) entries.1) held entries.2
  | other, depth, held, cx => ⟨[], held, cx.report (.listChildDrop other.kindName depth)⟩

/-- The entries that the rest of a source item pushes, from the item that is held back on. -/
def itemEntries : List Markup.Block → Nat → Option HeldItem → Context →
    List ListEntry × Context
  | [], _, held, cx => (flush held, cx)
  | child :: children, depth, held, cx =>
      let step := listChild child depth held cx
      let rest := itemEntries children depth step.held step.context
      (step.pushed ++ rest.1, rest.2)

/-- Build the entries of a list at a depth, source item by source item. -/
def listItems : List (List Markup.Block) → Nat → Context → List ListEntry × Context
  | [], _, cx => ([], cx)
  | item :: items, depth, cx =>
      let first := itemEntries item depth none cx
      let rest := listItems items depth first.2
      (first.1 ++ rest.1, rest.2)

end

/-- Build a list at a depth, which is 0 for a list that stands in no other list. -/
def list (ordered : Bool) (items : List (List Markup.Block)) (depth : Nat) (cx : Context) :
    ListNode × Context :=
  let entries := listItems items depth cx.issue
  (.mk cx.nextId (listType ordered) depth entries.1, entries.2)

/-- A list under a source item is built like any other list, one level deeper. -/
theorem listChild_list (ordered : Bool) (items : List (List Markup.Block)) (depth : Nat)
    (held : Option HeldItem) (cx : Context) :
    listChild (.list ordered items) depth held cx =
      placeSublist (list ordered items (depth + 1) cx).1 held
        (list ordered items (depth + 1) cx).2 := by
  simp only [listChild, list]

end Build
end DocTree
