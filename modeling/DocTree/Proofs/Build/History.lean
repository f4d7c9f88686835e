import DocTree.Proofs.Build.Account
import DocTree.Proofs.Build.Translation
import Mathlib.Data.List.Basic

/-!
# The history of a context

A context may be used for more than one build.  A `Call` is one call of a builder, and an `Action`
is such a call, an id taken by hand or a report made by hand.  A history is any sequence of actions
on one context.

**One call** (`run_new_shift`).  What a call gives back is what it gives in a fresh context with the
same options, with the number of ids issued so far added to each of its ids.

**Many actions** (`advance_runAll`).  The invariant is `Advance`: the options stay, the ids handed
out are the next numbers in their order, and reports are only added.  One action advances the
context, and so does every history, by induction on its length.
-/

namespace DocTree
namespace Build

open DocTree.Tree (NodeId NodeRef ListNode)

section Calls

/-- A call of a builder. -/
inductive Call
  | inline (source : Markup.Inline)
  | inlines (content : List Markup.Inline)
  | paragraph (content : List Markup.Inline)
  | table (source : Markup.Table)
  | list (ordered : Bool) (items : List (List Markup.Block)) (depth : Nat)
  | block (source : Markup.Block)
  | blocks (source : List Markup.Block)

/-- What a call gives back.  A single block may give any number of blocks. -/
inductive Built
  | inline (node : Option Tree.Inline)
  | inlines (nodes : List Tree.Inline)
  | paragraph (node : Tree.Paragraph)
  | table (node : Tree.Table)
  | list (node : ListNode)
  | blocks (nodes : List Tree.Block)

/-- The nodes of a result, in document order. -/
def Built.nodes : Built → List NodeRef
  | .inline node => node.toList.map .inline
  | .inlines nodes => nodes.map .inline
  | .paragraph node => node.walk
  | .table node => .block (.table node) :: node.walkBelow
  | .list node => .list node :: node.walkBelow
  | .blocks nodes => Tree.Block.walkAll nodes

/-- A result with a number added to every id in it. -/
def Built.shift (k : Nat) : Built → Built
  | .inline node => .inline (node.map (Tree.Inline.shift k))
  | .inlines nodes => .inlines (nodes.map (Tree.Inline.shift k))
  | .paragraph node => .paragraph (node.shift k)
  | .table node => .table (node.shift k)
  | .list node => .list (node.shift k)
  | .blocks nodes => .blocks (Tree.Block.shiftAll k nodes)

/-- Make a call on a context. -/
def Call.run : Call → Context → Built × Context
  | .inline source, cx => (.inline (Build.inline source cx).1, (Build.inline source cx).2)
  | .inlines content, cx => (.inlines (Build.inlines content cx).1, (Build.inlines content cx).2)
  | .paragraph content, cx =>
      (.paragraph (Build.paragraph content cx).1, (Build.paragraph content cx).2)
  | .table source, cx => (.table (Build.table source cx).1, (Build.table source cx).2)
  | .list ordered items depth, cx =>
      (.list (Build.list ordered items depth cx).1, (Build.list ordered items depth cx).2)
  | .block source, cx => (.blocks (Build.block source cx).1, (Build.block source cx).2)
  | .blocks source, cx => (.blocks (Build.blocks source cx).1, (Build.blocks source cx).2)

/-- A call behind an earlier context gives what it gives without it, up to the shift of the ids. -/
theorem run_behind
    (call : Call)
    (cx earlier : Context) :
    call.run (cx.behind earlier) =
      ((call.run cx).1.shift earlier.issued, (call.run cx).2.behind earlier) := by
  cases call with
  | inline source =>
      simp [Call.run, inline_behind, Built.shift]
  | inlines content =>
      simp [Call.run, inlines_behind, Built.shift]
  | paragraph content =>
      simp [Call.run, Built.shift]
  | table source =>
      simp [Call.run, Built.shift]
  | list ordered items depth =>
      simp [Call.run, Built.shift]
  | block source =>
      simp [Call.run, block_behind, Built.shift]
  | blocks source =>
      simp [Call.run, blocks_behind, Built.shift]

/-- Every context gives what a fresh one gives, up to the shift of the ids. -/
theorem run_new_shift
    (call : Call)
    (cx : Context) :
    call.run cx =
      ((call.run (Context.new cx.options)).1.shift cx.issued,
        (call.run (Context.new cx.options)).2.behind cx) := by
  rw [← run_behind, new_behind]

/-- Every call has an account of the nodes it gives back. -/
theorem account_run
    (call : Call)
    (cx : Context) :
    ∃ contents losses,
      Account cx (call.run cx).2 ((call.run cx).1.nodes.map shown) contents losses := by
  cases call with
  | inline source =>
      have haccount := account_inline source cx
      refine ⟨(inlineContent? source).toList, (inlineLoss? source).toList, ?_⟩
      simpa only [Call.run, Built.nodes, List.map_map, Function.comp_def] using haccount
  | inlines content =>
      have haccount := account_inlines content cx
      refine ⟨inlinesContents content, inlinesLosses content, ?_⟩
      simpa only [Call.run, Built.nodes, List.map_map, Function.comp_def] using haccount
  | paragraph content =>
      exact ⟨_, _, account_paragraph content cx⟩
  | table source =>
      have hbelow := account_table source cx
      exact ⟨_, _, Account.cons (.block (.table (table source cx).1)) rfl hbelow⟩
  | list ordered items depth =>
      have hbelow := account_list ordered items depth cx
      exact ⟨_, _, Account.cons (.list (list ordered items depth cx).1) rfl hbelow⟩
  | block source =>
      exact ⟨_, _, account_block source cx⟩
  | blocks source =>
      exact ⟨_, _, account_blocks source cx⟩

end Calls

section Histories

/-- Something done on a context. -/
inductive Action
  | nextId
  | report (diagnostic : Diagnostic)
  | call (made : Call)

/-- The ids that an action hands out, in the order of the nodes that take them, and the context
afterwards. -/
def Action.run : Action → Context → List NodeId × Context
  | .nextId, cx => ([cx.nextId], cx.issue)
  | .report diagnostic, cx => ([], cx.report diagnostic)
  | .call made, cx => ((made.run cx).1.nodes.map NodeRef.id, (made.run cx).2)

/-- The ids that a history hands out, and the context afterwards. -/
def runAll : List Action → Context → List NodeId × Context
  | [], cx => ([], cx)
  | action :: actions, cx =>
      let first := action.run cx
      let rest := runAll actions first.2
      (first.1 ++ rest.1, rest.2)

/-- How a context moves on while ids are handed out: with the same options, by the next numbers in
their order, and with reports only added. -/
structure Advance
    (before after : Context)
    (ids : List NodeId) : Prop where
  options : after.options = before.options
  issued : after.issued = before.issued + ids.length
  numbered : ids.map NodeId.index = List.range' before.issued ids.length
  diagnostics : before.diagnostics.toList <+: after.diagnostics.toList

theorem Advance.append
    {first middle last : Context}
    {ids ids' : List NodeId}
    (h : Advance first middle ids)
    (h' : Advance middle last ids') :
    Advance first last (ids ++ ids') where
  options := h'.options.trans h.options
  issued := by
    rw [h'.issued, h.issued, List.length_append, Nat.add_assoc]
  numbered := by
    rw [List.map_append, h.numbered, h'.numbered, h.issued, List.length_append,
      List.range'_append_1]
  diagnostics := h.diagnostics.trans h'.diagnostics

/-- A run with an account advances the context by the ids of its nodes. -/
theorem Account.advance
    {before after : Context}
    {nodes : List NodeRef}
    {contents : List Content}
    {losses : List Diagnostic}
    (h : Account before after (nodes.map shown) contents losses) :
    Advance before after (nodes.map NodeRef.id) := by
  have hlength : nodes.length = contents.length := by
    have := congrArg List.length h.numbered
    simpa using this
  refine ⟨h.options, ?_, ?_, ?_⟩
  · rw [h.issued, List.length_map, hlength]
  · -- An account pairs the nodes with the next numbers, which are read off here.
    have hsnd := congrArg (List.map Prod.snd) h.numbered
    rw [List.map_map, List.zipIdx_map_snd, ← hlength] at hsnd
    rw [List.map_map, List.length_map]
    exact hsnd
  · rw [h.diagnostics]
    exact List.prefix_append _ _

theorem advance_run
    (action : Action)
    (cx : Context) :
    Advance cx (action.run cx).2 (action.run cx).1 := by
  cases action with
  | nextId =>
      exact ⟨rfl, rfl, rfl, List.prefix_refl _⟩
  | report diagnostic =>
      refine ⟨rfl, rfl, rfl, ?_⟩
      simp [Action.run, Context.report]
  | call made =>
      obtain ⟨contents, losses, haccount⟩ := account_run made cx
      exact haccount.advance

theorem advance_runAll
    (actions : List Action)
    (cx : Context) :
    Advance cx (runAll actions cx).2 (runAll actions cx).1 := by
  induction actions generalizing cx with
  | nil =>
      exact ⟨rfl, rfl, rfl, List.prefix_refl _⟩
  | cons action actions ih =>
      have hfirst := advance_run action cx
      have hrest := ih (action.run cx).2
      exact hfirst.append hrest

theorem runAll_append
    (actions actions' : List Action)
    (cx : Context) :
    runAll (actions ++ actions') cx =
      ((runAll actions cx).1 ++ (runAll actions' (runAll actions cx).2).1,
        (runAll actions' (runAll actions cx).2).2) := by
  induction actions generalizing cx with
  | nil =>
      rfl
  | cons action actions ih =>
      simp only [List.cons_append, runAll, ih, List.append_assoc]

end Histories

/-- **Histories.**  Builders read the options of a context and only append to it.  A call gives what
it gives in a fresh context, with the ids counted on from those issued before and the reports added
behind the earlier ones.  So on one context all ids come out in increasing order, whatever is done
in between, an earlier list of diagnostics is a prefix of every later one, and a run of blocks may
be built in parts. -/
theorem builders_only_append (cx : Context) :
    (∀ call : Call,
      (call.run cx).1 = (call.run (Context.new cx.options)).1.shift cx.issued ∧
        (call.run cx).2.issued = cx.issued + (call.run cx).1.nodes.length ∧
        (call.run cx).2.diagnostics =
          cx.diagnostics ++ (call.run (Context.new cx.options)).2.diagnostics ∧
        (call.run cx).2.options = cx.options) ∧
      (∀ actions : List Action,
        ((runAll actions cx).1.map NodeId.index).Pairwise (· < ·) ∧
          (runAll actions cx).2.issued = cx.issued + (runAll actions cx).1.length) ∧
      (∀ earlier later : List Action,
        (runAll earlier cx).2.diagnostics.toList <+:
          (runAll (earlier ++ later) cx).2.diagnostics.toList) ∧
      ∀ xs ys : List Markup.Block,
        blocks (xs ++ ys) cx =
          ((blocks xs cx).1 ++ (blocks ys (blocks xs cx).2).1,
            (blocks ys (blocks xs cx).2).2) := by
  refine ⟨?_, ?_, ?_, fun xs ys => blocks_append xs ys cx⟩
  · intro call
    have hrun := run_new_shift call cx
    have hadvance := advance_run (.call call) cx
    refine ⟨congrArg Prod.fst hrun, ?_, ?_, hadvance.options⟩
    · simpa only [Action.run, List.length_map] using hadvance.issued
    · rw [hrun]
      rfl
  · intro actions
    have hadvance := advance_runAll actions cx
    refine ⟨?_, hadvance.issued⟩
    rw [hadvance.numbered]
    exact List.pairwise_lt_range'
  · intro earlier later
    rw [runAll_append]
    exact (advance_runAll later _).diagnostics

end Build
end DocTree
