import DocTree.Build.Conversion
import DocTree.Proofs.Build.Projection
import DocTree.Proofs.Build.Rows
import Mathlib.Data.List.Basic

/-!
# The account of a build

An `Account` says everything that a run of a builder does between two contexts: the nodes that a
walk of its result meets, what they say, and the losses that were reported.  It carries the
invariant of the id counter: the ids of the nodes are the numbers issued during the run, in the
order of the walk.

There is one account for each builder, from inlines up to blocks.  A list needs care, because an
item takes its id early and is pushed late.  Here the invariant is about the entries that were
pushed followed by the item that is held back: a step through the children of a source item adds
the nodes of one child at the end of their walk, whatever the layout (`account_listChild`).

**Results.**
* `walk_build_ids`: a walk meets the issued ids in order, and each of them once.
* `walk_build_contents`: a walk shows the contents of the document, in order.
* `build_diagnostics_eq`: the diagnostics are the losses of the document, in order.
-/

namespace DocTree
namespace Build

open DocTree.Tree (NodeRef ListNode ListEntry)

/-- The record that reports a diagnostic in the log. -/
def lossRecord (loss : Diagnostic) : LogRecord :=
  ⟨.debug, loss.message⟩

/-- The records of a log at the level of diagnostics. -/
def debugRecords (log : List LogRecord) : List LogRecord :=
  log.filter fun record => record.level = .debug

/-- What a walk shows of a node: its content and its number. -/
def shown (node : NodeRef) : Content × Nat :=
  (nodeContent node, node.id.index)

/-- What a builder does between two contexts: the nodes it builds show the contents, numbered from
the next id on, and the losses are reported. -/
structure Account
    (before after : Context)
    (nodes : List (Content × Nat))
    (contents : List Content)
    (losses : List Diagnostic) : Prop where
  options : after.options = before.options
  issued : after.issued = before.issued + contents.length
  numbered : nodes = contents.zipIdx before.issued
  diagnostics : after.diagnostics.toList = before.diagnostics.toList ++ losses
  debugLog :
    debugRecords after.log.toList =
      debugRecords before.log.toList ++ losses.map lossRecord

namespace Account

/-- Doing nothing. -/
theorem refl (cx : Context) : Account cx cx [] [] [] where
  options := rfl
  issued := rfl
  numbered := rfl
  diagnostics := by simp
  debugLog := by simp

/-- One run after another. -/
theorem append
    {first middle last : Context}
    {nodes nodes' : List (Content × Nat)}
    {contents contents' : List Content}
    {losses losses' : List Diagnostic}
    (h : Account first middle nodes contents losses)
    (h' : Account middle last nodes' contents' losses') :
    Account first last (nodes ++ nodes') (contents ++ contents') (losses ++ losses') where
  options := h'.options.trans h.options
  issued := by
    rw [h'.issued, h.issued, List.length_append]
    omega
  numbered := by
    rw [h.numbered, h'.numbered, h.issued, List.zipIdx_append]
  diagnostics := by
    rw [h'.diagnostics, h.diagnostics, List.append_assoc]
  debugLog := by
    rw [h'.debugLog, h.debugLog, List.map_append, List.append_assoc]

/-- A node takes the next id. -/
theorem issue
    (cx : Context)
    (node : NodeRef)
    (hid : node.id = cx.nextId) :
    Account cx cx.issue [shown node] [nodeContent node] [] where
  options := rfl
  issued := rfl
  numbered := by
    simp [shown, hid, Context.nextId]
  diagnostics := by
    simp [Context.issue]
  debugLog := by
    simp [Context.issue]

/-- A node takes the next id, and more nodes follow it. -/
theorem cons
    {cx after : Context}
    {nodes : List (Content × Nat)}
    {contents : List Content}
    {losses : List Diagnostic}
    (node : NodeRef)
    (hid : node.id = cx.nextId)
    (h : Account cx.issue after nodes contents losses) :
    Account cx after (shown node :: nodes) (nodeContent node :: contents) losses :=
  (issue cx node hid).append h

/-- A loss is reported. -/
theorem report (cx : Context) (loss : Diagnostic) :
    Account cx (cx.report loss) [] [] [loss] where
  options := rfl
  issued := rfl
  numbered := rfl
  diagnostics := by
    simp [Context.report, Context.record]
  debugLog := by
    simp [Context.report, Context.record, debugRecords, lossRecord]

/-- A record of the trace counts for nothing. -/
theorem trace (cx : Context) (message : String) :
    Account cx (cx.record .trace message) [] [] [] where
  options := rfl
  issued := rfl
  numbered := rfl
  diagnostics := by
    simp [Context.record]
  debugLog := by
    simp [Context.record, debugRecords]

/-- A record of the trace in front of a run changes nothing. -/
theorem traced
    {cx after : Context}
    {message : String}
    {nodes : List (Content × Nat)}
    {contents : List Content}
    {losses : List Diagnostic}
    (h : Account (cx.record .trace message) after nodes contents losses) :
    Account cx after nodes contents losses :=
  (trace cx message).append h

end Account

section Inlines

/-- A kind with a node gives a node with the id, and loses nothing. -/
theorem inlineNode?_some
    {id : Tree.NodeId} {source : Markup.Inline} {node : Tree.Inline}
    (h : inlineNode? id source = some node) :
    node.id = id ∧
      inlineContent? source = some (inlineContent node) ∧
      inlineLoss? source = none := by
  cases source with
  | other name s =>
      simp [inlineNode?] at h
  | strikethrough children =>
      simp only [inlineNode?, stripDelimiters_plainText, Option.some.injEq] at h
      subst node
      exact ⟨rfl, rfl, rfl⟩
  | text _ | strong _ | emphasis _ | code _ | link _ _ _ | image _ _ _ =>
      simp only [inlineNode?, Option.some.injEq] at h
      subst node
      exact ⟨rfl, rfl, rfl⟩

/-- A kind without a node is lost under its name. -/
theorem inlineNode?_none
    {id : Tree.NodeId} {source : Markup.Inline}
    (h : inlineNode? id source = none) :
    inlineContent? source = none ∧
      inlineLoss? source = some (.inlineDrop source.kindName) := by
  cases source with
  | other name s =>
      exact ⟨rfl, rfl⟩
  | text _ | strong _ | emphasis _ | strikethrough _ | code _ | link _ _ _ | image _ _ _ =>
      simp [inlineNode?] at h

theorem account_inline (source : Markup.Inline) (cx : Context) :
    Account cx (inline source cx).2
      ((inline source cx).1.toList.map fun node => shown (.inline node))
      (inlineContent? source).toList
      (inlineLoss? source).toList := by
  cases h : inlineNode? cx.nextId source with
  | none =>
      obtain ⟨hcontent, hloss⟩ := inlineNode?_none h
      simp only [inline, h, hcontent, hloss]
      exact Account.report cx _
  | some node =>
      obtain ⟨hid, hcontent, hloss⟩ := inlineNode?_some h
      simp only [inline, h, hcontent, hloss]
      exact Account.issue cx (.inline node) hid

theorem account_inlines (content : List Markup.Inline) (cx : Context) :
    Account cx (inlines content cx).2
      ((inlines content cx).1.map fun node => shown (.inline node))
      (inlinesContents content)
      (inlinesLosses content) := by
  induction content generalizing cx with
  | nil =>
      exact Account.refl cx
  | cons source content ih =>
      have hfirst := account_inline source cx
      have hrest := ih (inline source cx).2
      simpa only [inlines, List.map_append, inlinesContents, inlinesLosses,
        List.filterMap_eq_flatMap_toList, List.flatMap_cons] using hfirst.append hrest

/-- The inlines of a paragraph, which follow the paragraph however that is met. -/
theorem account_walkInlines (content : List Markup.Inline) (cx : Context) :
    Account cx.issue (paragraph content cx).2
      ((paragraph content cx).1.walkInlines.map shown)
      (inlinesContents content)
      (inlinesLosses content) := by
  simpa only [paragraph, Tree.Paragraph.walkInlines, List.map_map, Function.comp_def] using
    account_inlines content cx.issue

theorem account_paragraph (content : List Markup.Inline) (cx : Context) :
    Account cx (paragraph content cx).2
      ((paragraph content cx).1.walk.map shown)
      (paragraphContents content)
      (inlinesLosses content) :=
  Account.cons (.paragraph (paragraph content cx).1) rfl (account_walkInlines content cx)

end Inlines

section Tables

theorem account_paragraphs (cells : List Markup.Cell) (cx : Context) :
    Account cx (paragraphs cells cx).2
      (((paragraphs cells cx).1.flatMap Tree.Paragraph.walk).map shown)
      (cells.flatMap paragraphContents)
      (cells.flatMap inlinesLosses) := by
  induction cells generalizing cx with
  | nil =>
      exact Account.refl cx
  | cons cell cells ih =>
      have hfirst := account_paragraph cell cx
      have hrest := ih (paragraph cell cx).2
      simpa only [paragraphs, List.flatMap_cons, List.map_append] using hfirst.append hrest

theorem account_rows (source : List (List Markup.Cell)) (cx : Context) :
    Account cx (rows source cx).2
      (((rows source cx).1.flatten.flatMap Tree.Paragraph.walk).map shown)
      (source.flatten.flatMap paragraphContents)
      (source.flatten.flatMap inlinesLosses) := by
  induction source generalizing cx with
  | nil =>
      exact Account.refl cx
  | cons cells source ih =>
      have hfirst := account_paragraphs cells cx
      have hrest := ih (paragraphs cells cx).2
      simpa only [rows, List.flatten_cons, List.flatMap_append, List.map_append]
        using hfirst.append hrest

/-- What lies below a table: the head row is built first, then the body row by row. -/
theorem account_table (source : Markup.Table) (cx : Context) :
    Account cx.issue (table source cx).2
      ((table source cx).1.walkBelow.map shown)
      (tableContents source)
      (tableLosses source) := by
  have hhead := account_paragraphs source.head cx.issue
  have hbody := account_rows source.rows (paragraphs source.head cx.issue).2
  simpa only [table_eq_tableByRows, tableByRows, Tree.Table.walkBelow, tableContents, tableLosses,
    List.flatMap_append, List.map_append] using hhead.append hbody

end Tables

section Lists

/-- What a walk of the entries of a list shows. -/
def entriesShown (entries : List ListEntry) : List (Content × Nat) :=
  (ListEntry.walkAll entries).map shown

@[simp] theorem entriesShown_append (entries entries' : List ListEntry) :
    entriesShown (entries ++ entries') = entriesShown entries ++ entriesShown entries' := by
  simp [entriesShown]

theorem entriesShown_sublist (sublist : ListNode) :
    entriesShown [.sublist sublist] =
      shown (.list sublist) :: sublist.walkBelow.map shown := by
  simp [entriesShown, ListEntry.walkAll, ListEntry.walk]

/-- Wherever a sublist is placed, it shows behind everything that was held back. -/
theorem shown_placeSublist
    (sublist : ListNode)
    (held : Option HeldItem)
    (cx : Context) :
    entriesShown (placeSublist sublist held cx).entries =
      entriesShown (flush held) ++ entriesShown [.sublist sublist] := by
  unfold placeSublist
  split
  · simp [ListStep.entries, entriesShown, flush, ListEntry.walkAll, ListEntry.walk,
      ListNode.walkAll, shown, nodeContent, NodeRef.id]
  · simp [ListStep.entries, flush]

/-- The account of entries that were built while an item was held back: they show that item, and
behind it the nodes that are accounted for. -/
def HeldAccount
    (held : Option HeldItem)
    (before : Context)
    (entries : List ListEntry)
    (after : Context)
    (contents : List Content)
    (losses : List Diagnostic) : Prop :=
  ∃ nodes,
    entriesShown entries = entriesShown (flush held) ++ nodes ∧
      Account before after nodes contents losses

/-- A step through the children of a source item, and the run through the rest of them. -/
theorem HeldAccount.append
    {held : Option HeldItem}
    {before last : Context}
    {step : ListStep}
    {rest : List ListEntry}
    {contents contents' : List Content}
    {losses losses' : List Diagnostic}
    (h : HeldAccount held before step.entries step.context contents losses)
    (h' : HeldAccount step.held step.context rest last contents' losses') :
    HeldAccount held before (step.pushed ++ rest) last
      (contents ++ contents') (losses ++ losses') := by
  obtain ⟨nodes, hshown, haccount⟩ := h
  obtain ⟨nodes', hshown', haccount'⟩ := h'
  exact ⟨nodes ++ nodes',
    ListStep.view_append entriesShown entriesShown_append hshown hshown',
    haccount.append haccount'⟩

/-- A paragraph takes the place of the item that was held back. -/
theorem heldAccount_paragraph
    (content : List Markup.Inline)
    (held : Option HeldItem)
    (cx : Context) :
    HeldAccount held cx
      (flush held ++ [.item cx.nextId (paragraph content cx.issue).1 []])
      (paragraph content cx.issue).2
      (.listItem :: paragraphContents content) (inlinesLosses content) := by
  have hlead := account_paragraph content cx.issue
  refine ⟨_, ?_, Account.cons (.item cx.nextId (paragraph content cx.issue).1 []) rfl hlead⟩
  simp [entriesShown, ListEntry.walkAll, ListEntry.walk, ListNode.walkAll]

/-- A dropped child leaves the item that is held back as it is. -/
theorem heldAccount_drop
    (child : Markup.Block)
    (depth : Nat)
    (held : Option HeldItem)
    (cx : Context) :
    HeldAccount held cx (flush held) (cx.report (.listChildDrop child.kindName depth))
      [] [.listChildDrop child.kindName depth] :=
  ⟨[], by rw [List.append_nil], Account.report cx _⟩

mutual

/-- The step through one child. -/
theorem account_listChild :
    ∀ (child : Markup.Block) (depth : Nat) (held : Option HeldItem) (cx : Context),
      HeldAccount held cx
        (listChild child depth held cx).entries
        (listChild child depth held cx).context
        (childContents child) (childLosses child depth)
  | .paragraph content, _, held, cx => heldAccount_paragraph content held cx
  | .list ordered items, depth, held, cx => by
      have hbelow := account_listItems items (depth + 1) cx.issue
      rw [listChild_list]
      refine ⟨_, shown_placeSublist _ held _, ?_⟩
      rw [context_placeSublist, entriesShown_sublist]
      exact Account.cons (.list (list ordered items (depth + 1) cx).1) rfl hbelow
  | .heading level content, depth, held, cx =>
      heldAccount_drop (.heading level content) depth held cx
  | .codeBlock info literal, depth, held, cx =>
      heldAccount_drop (.codeBlock info literal) depth held cx
  | .blockQuote children, depth, held, cx =>
      heldAccount_drop (.blockQuote children) depth held cx
  | .table source, depth, held, cx =>
      heldAccount_drop (.table source) depth held cx
  | .other name children, depth, held, cx =>
      heldAccount_drop (.other name children) depth held cx

/-- The run through the rest of a source item. -/
theorem account_itemEntries :
    ∀ (children : List Markup.Block) (depth : Nat) (held : Option HeldItem) (cx : Context),
      HeldAccount held cx
        (itemEntries children depth held cx).1
        (itemEntries children depth held cx).2
        (itemContents children) (itemLosses children depth)
  | [], _, held, cx => ⟨[], by rw [itemEntries, List.append_nil], Account.refl cx⟩
  | child :: children, depth, held, cx => by
      have hstep := account_listChild child depth held cx
      have hrest :=
        account_itemEntries children depth
          (listChild child depth held cx).held (listChild child depth held cx).context
      exact hstep.append hrest

/-- The run through the source items of a list; nothing is held back between two of them. -/
theorem account_listItems :
    ∀ (items : List (List Markup.Block)) (depth : Nat) (cx : Context),
      Account cx (listItems items depth cx).2
        (entriesShown (listItems items depth cx).1)
        (itemsContents items) (itemsLosses items depth)
  | [], depth, cx => Account.refl cx
  | item :: items, depth, cx => by
      obtain ⟨nodes, hshown, hitem⟩ := account_itemEntries item depth none cx
      have hrest := account_listItems items depth (itemEntries item depth none cx).2
      have hnil : entriesShown (flush none) = [] := rfl
      rw [hnil, List.nil_append] at hshown
      rw [listItems, entriesShown_append, hshown]
      exact hitem.append hrest

end

/-- What lies below a list, which follows the list however that is met. -/
theorem account_list
    (ordered : Bool)
    (items : List (List Markup.Block))
    (depth : Nat)
    (cx : Context) :
    Account cx.issue (list ordered items depth cx).2
      ((list ordered items depth cx).1.walkBelow.map shown)
      (itemsContents items)
      (itemsLosses items depth) :=
  account_listItems items depth cx.issue

/-- A child of an item moves the context on by the contents that it shows. -/
theorem issued_listChild
    (child : Markup.Block)
    (depth : Nat)
    (held : Option HeldItem)
    (cx : Context) :
    (listChild child depth held cx).context.issued =
      cx.issued + (childContents child).length := by
  obtain ⟨_, _, haccount⟩ := account_listChild child depth held cx
  exact haccount.issued

theorem options_listChild
    (child : Markup.Block)
    (depth : Nat)
    (held : Option HeldItem)
    (cx : Context) :
    (listChild child depth held cx).context.options = cx.options := by
  obtain ⟨_, _, haccount⟩ := account_listChild child depth held cx
  exact haccount.options

theorem issued_itemEntries
    (children : List Markup.Block)
    (depth : Nat)
    (held : Option HeldItem)
    (cx : Context) :
    (itemEntries children depth held cx).2.issued =
      cx.issued + (itemContents children).length := by
  obtain ⟨_, _, haccount⟩ := account_itemEntries children depth held cx
  exact haccount.issued

theorem options_itemEntries
    (children : List Markup.Block)
    (depth : Nat)
    (held : Option HeldItem)
    (cx : Context) :
    (itemEntries children depth held cx).2.options = cx.options := by
  obtain ⟨_, _, haccount⟩ := account_itemEntries children depth held cx
  exact haccount.options

theorem options_list
    (ordered : Bool)
    (items : List (List Markup.Block))
    (depth : Nat)
    (cx : Context) :
    (list ordered items depth cx).2.options = cx.options :=
  (account_list ordered items depth cx).options

end Lists

section Blocks

/-- What a walk of a run of blocks shows. -/
def blocksShown (nodes : List Tree.Block) : List (Content × Nat) :=
  (Tree.Block.walkAll nodes).map shown

theorem blocksShown_append (nodes nodes' : List Tree.Block) :
    blocksShown (nodes ++ nodes') = blocksShown nodes ++ blocksShown nodes' := by
  simp [blocksShown]

theorem blocksShown_singleton (node : Tree.Block) :
    blocksShown [node] = node.walk.map shown := by
  simp [blocksShown]

mutual

/-- The account of a block, which is read in the mode that the context holds. -/
theorem account_block :
    ∀ (source : Markup.Block) (cx : Context),
      Account cx (block source cx).2
        (blocksShown (block source cx).1)
        (blockContents cx.options.codeTrim source)
        (blockLosses source)
  | .heading level content, cx => by
      rw [block, blocksShown_singleton]
      exact (Account.issue _ (.block (.heading _ level _)) rfl).traced
  | .paragraph content, cx => by
      rw [block, blocksShown_singleton]
      exact (Account.cons (.block (.paragraph _)) rfl (account_walkInlines content _)).traced
  | .codeBlock info literal, cx => by
      rw [block, blocksShown_singleton]
      simp only [String.isEmpty_iff]
      exact (Account.issue _ (.block (.codeBlock _ _ _)) rfl).traced
  | .list ordered items, cx => by
      rw [block, blocksShown_singleton]
      exact (Account.cons (.block (.list _)) rfl (account_list ordered items 0 _)).traced
  | .blockQuote children, cx => by
      rw [block, blocksShown_singleton]
      exact (Account.cons (.block (.blockQuote _ _)) rfl (account_blocks children _)).traced
  | .table source, cx => by
      rw [block, blocksShown_singleton]
      exact (Account.cons (.block (.table _)) rfl (account_table source _)).traced
  | .other name children, cx => by
      rw [block]
      exact ((Account.report _ (.blockFallthrough name)).append
        (account_blocks children _)).traced

/-- The account of a run of blocks. -/
theorem account_blocks :
    ∀ (source : List Markup.Block) (cx : Context),
      Account cx (blocks source cx).2
        (blocksShown (blocks source cx).1)
        (blocksContents cx.options.codeTrim source)
        (blocksLosses source)
  | [], cx => Account.refl cx
  | b :: bs, cx => by
      have hfirst := account_block b cx
      have hrest := account_blocks bs (block b cx).2
      rw [hfirst.options] at hrest
      rw [blocks, blocksShown_append]
      exact hfirst.append hrest

end

/-- The account of a whole build. -/
theorem account_buildRoot (doc : Markup.Document) (options : Options) :
    Account (Context.new options) (buildRoot doc options).2
      ((buildRoot doc options).1.walk.map shown)
      (documentContents options.codeTrim doc)
      (documentLosses doc) :=
  Account.cons (.root (buildRoot doc options).1) rfl
    (account_blocks doc.children (Context.new options).issue)

/-- What the walk of a built tree says, without the ids. -/
theorem nodeContent_walk_build (doc : Markup.Document) (options : Options) :
    (build doc options).root.walk.map nodeContent = documentContents options.codeTrim doc := by
  have hfst := congrArg (List.map Prod.fst) (account_buildRoot doc options).numbered
  rw [List.map_map, List.zipIdx_map_fst] at hfst
  exact hfst

/-- The nodes of a built tree are numbered from zero on, in the order of the walk. -/
theorem index_walk_build (doc : Markup.Document) (options : Options) :
    (build doc options).root.walk.map (fun node => node.id.index) =
      List.range (build doc options).root.walk.length := by
  have hsnd := congrArg (List.map Prod.snd) (account_buildRoot doc options).numbered
  rw [List.map_map, List.zipIdx_map_snd] at hsnd
  have hids : (build doc options).root.walk.map (fun node => node.id.index) =
      List.range' 0 (documentContents options.codeTrim doc).length :=
    hsnd
  have hlength := congrArg List.length hids
  rw [List.length_map, List.length_range'] at hlength
  rw [hids, hlength, List.range_eq_range']

/-- What a build reports. -/
theorem diagnostics_build (doc : Markup.Document) (options : Options) :
    (build doc options).diagnostics = documentLosses doc := by
  have hreported := (account_buildRoot doc options).diagnostics
  simpa [build, Context.new] using hreported

end Blocks

section Results

/-- **Numbering.**  The ids met on a walk of a built tree are the numbers that the context issued,
from zero on and in their order, and the log closes with their count. -/
theorem walk_build_ids (doc : Markup.Document) (options : Options) :
    (build doc options).root.walk.map (fun node => node.id.index) =
        List.range (buildRoot doc options).2.issued ∧
      (buildLog doc options).getLast? =
        some ⟨.trace,
          "built " ++ toString (build doc options).root.children.length ++
            " top-level blocks (" ++ toString (build doc options).root.walk.length ++
            " nodes), " ++ toString (build doc options).diagnostics.length ++
            " diagnostics"⟩ := by
  have haccount := account_buildRoot doc options
  have hissued : (buildRoot doc options).2.issued =
      (documentContents options.codeTrim doc).length := by
    rw [haccount.issued]
    exact Nat.zero_add _
  have hids : (build doc options).root.walk.map (fun node => node.id.index) =
      List.range (buildRoot doc options).2.issued := by
    have hsnd := congrArg (List.map Prod.snd) haccount.numbered
    rw [List.map_map, List.zipIdx_map_snd, ← hissued] at hsnd
    rw [List.range_eq_range']
    exact hsnd
  have hlength : (build doc options).root.walk.length = (buildRoot doc options).2.issued := by
    rw [← List.length_range (n := (buildRoot doc options).2.issued), ← hids, List.length_map]
  refine ⟨hids, ?_⟩
  rw [hlength]
  simp [buildLog, build]

/-- **Content fidelity.**  A walk of a built tree meets the kinds and contents of the document,
in document order. -/
theorem walk_build_contents (doc : Markup.Document) (options : Options) :
    (build doc options).root.walk.map (fun node => (node.kind, nodeContent node)) =
      (documentContents options.codeTrim doc).map fun content => (content.kind, content) := by
  have hfst := congrArg (List.map Prod.fst) (account_buildRoot doc options).numbered
  rw [List.map_map, List.zipIdx_map_fst] at hfst
  rw [← hfst, List.map_map]
  apply List.map_congr_left
  intro node _
  simp [shown]

/-- **Losses.**  A build reports the losses of the document, each of them once and in document
order, and logs each of them as it is reported. -/
theorem build_diagnostics_eq (doc : Markup.Document) (options : Options) :
    (build doc options).diagnostics = documentLosses doc ∧
      debugRecords (buildLog doc options) = (documentLosses doc).map lossRecord := by
  have haccount := account_buildRoot doc options
  constructor
  · simpa [build, Context.new] using haccount.diagnostics
  · have hlog := haccount.debugLog
    have hsummary : ∀ message : String, debugRecords [⟨.trace, message⟩] = [] := by
      intro message
      rfl
    rw [buildLog]
    unfold debugRecords at hlog hsummary ⊢
    rw [List.filter_append, hlog, hsummary]
    simp [Context.new]

-- A container comes before what is lost in it, and a dropped child has the depth of its list.
example :
    (build ⟨[.other "footnote" [.paragraph [.other "softbreak" " "],
        .list false [[.codeBlock "" "x", .list true [[.other "math" []]]]]]]⟩ {}).diagnostics =
      [.blockFallthrough "footnote", .inlineDrop "softbreak", .listChildDrop "code_block" 0,
        .listChildDrop "math" 1] := by
  decide

end Results

end Build
end DocTree
