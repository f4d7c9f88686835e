import DocTree.Proofs.Treeviz.Reading
import DocTree.Tree.Walk
import Mathlib.Algebra.GroupWithZero.Nat
import Mathlib.Data.List.Forall2

/-!
# A visualization follows the walk

A visualization and a walk enumerate a tree by two recursions of their own.  Here the lines are
compared with the nodes met on the walk.

**Marks.**  A `Mark` is what a line stands for: a node, or a row of a table, which is no node.
`Drawn nodes marks` says which marks the nodes of a walk lead to.  The paragraph that leads an item
has no line.  The rows of a table stand between the table and its cells: the header row directly
before the header paragraphs, and each body row directly before its cells.

**Captions.**  A `Caption` is a drawn node without its place, so the captions of a forest are a
plain concatenation, whereas the rails of a line depend on everything around it.
-/

namespace DocTree
namespace Format
namespace Treeviz

open DocTree.Tree (NodeId NodeRef ListNode ListEntry Paragraph)

section Marks

/-- What a line of a visualization stands for. -/
inductive Mark
  | node (node : NodeRef)
  /-- A row of a table, with its label. -/
  | row (label : String)

namespace Mark

def id : Mark → Option NodeId
  | node n => some n.id
  | row _ => none

def icon : Mark → String
  | node n => Format.icon n.kind.name
  | row _ => Format.icon "TableRow"

def node? : Mark → Option NodeRef
  | node n => some n
  | row _ => none

def row? : Mark → Option String
  | node _ => none
  | row label => some label

end Mark

def nodeMarks (nodes : List NodeRef) : List Mark :=
  nodes.map Mark.node

/-- The rows of a table body, numbered from a number on, each of them directly before its cells. -/
def rowMarks : Nat → List (List Paragraph) → List Mark
  | _, [] => []
  | number, cells :: rows =>
      .row ("row " ++ toString number) ::
        (nodeMarks (cells.flatMap Paragraph.walk) ++ rowMarks (number + 1) rows)

/-- What is drawn below a table: the header row with the header paragraphs, then the body rows. -/
def tableMarks (table : Tree.Table) : List Mark :=
  .row "header" ::
    (nodeMarks (table.headers.flatMap Paragraph.walk) ++ rowMarks 1 table.body)

/-- Whether a node is drawn on one line of its own, and nothing else is drawn for it or left out
because of it. -/
def IsPlain : NodeRef → Prop
  | .item _ _ _ => False
  | .block (.table _) => False
  | _ => True

/-- The marks to which the nodes of a walk lead, in order. -/
inductive Drawn : List NodeRef → List Mark → Prop
  | nil : Drawn [] []
  /-- The paragraph that leads an item is met right after the item. -/
  | item
      (id : NodeId)
      (paragraph : Paragraph)
      (sublists : List ListNode)
      {nodes : List NodeRef}
      {marks : List Mark} :
      Drawn nodes marks →
      Drawn (.item id paragraph sublists :: .paragraph paragraph :: nodes)
        (.node (.item id paragraph sublists) :: marks)
  | table
      (table : Tree.Table)
      {nodes : List NodeRef}
      {marks : List Mark} :
      Drawn nodes marks →
      Drawn (.block (.table table) :: (table.walkBelow ++ nodes))
        (.node (.block (.table table)) :: (tableMarks table ++ marks))
  | plain
      {node : NodeRef}
      {nodes : List NodeRef}
      {marks : List Mark} :
      IsPlain node →
      Drawn nodes marks →
      Drawn (node :: nodes) (.node node :: marks)

theorem Drawn.append
    {nodes nodes' : List NodeRef}
    {marks marks' : List Mark}
    (h : Drawn nodes marks)
    (h' : Drawn nodes' marks') :
    Drawn (nodes ++ nodes') (marks ++ marks') := by
  induction h with
  | nil =>
      exact h'
  | item id paragraph sublists _ ih =>
      exact .item id paragraph sublists ih
  | table table _ ih =>
      rw [List.cons_append, List.cons_append, List.append_assoc, List.append_assoc]
      exact .table table ih
  | plain hplain _ ih =>
      exact .plain hplain ih

/-- Plain nodes are drawn one to a line. -/
theorem drawn_nodeMarks
    {nodes : List NodeRef}
    (h : ∀ node ∈ nodes, IsPlain node) :
    Drawn nodes (nodeMarks nodes) := by
  induction nodes with
  | nil =>
      exact .nil
  | cons node nodes ih =>
      have hfirst := h node List.mem_cons_self
      have hrest := ih fun node' hnode' => h node' (List.mem_cons_of_mem _ hnode')
      exact .plain hfirst hrest

theorem isPlain_of_mem_walk
    {paragraphs : List Paragraph}
    {node : NodeRef}
    (h : node ∈ paragraphs.flatMap Paragraph.walk) :
    IsPlain node := by
  obtain ⟨paragraph, _, hnode⟩ := List.mem_flatMap.mp h
  rcases List.mem_cons.mp hnode with rfl | hnode
  · trivial
  · obtain ⟨inline, _, rfl⟩ := List.mem_map.mp hnode
    trivial

theorem isPlain_of_mem_walkBelow
    {table : Tree.Table}
    {node : NodeRef}
    (h : node ∈ table.walkBelow) :
    IsPlain node := by
  rcases List.mem_append.mp h with hheader | hcell
  · exact isPlain_of_mem_walk hheader
  · exact isPlain_of_mem_walk hcell

end Marks

section Counting

/-- The nodes of a walk without the paragraphs that lead items. -/
def withoutLeads : List NodeRef → List NodeRef
  | [] => []
  | .item id paragraph sublists :: .paragraph _ :: nodes =>
      .item id paragraph sublists :: withoutLeads nodes
  | node :: nodes => node :: withoutLeads nodes

theorem withoutLeads_plain
    {node : NodeRef}
    (h : IsPlain node)
    (nodes : List NodeRef) :
    withoutLeads (node :: nodes) = node :: withoutLeads nodes := by
  cases node with
  | item _ _ _ =>
      exact absurd h id
  | root _ | block _ | paragraph _ | inline _ | list _ =>
      rfl

theorem withoutLeads_append
    {front : List NodeRef}
    (h : ∀ node ∈ front, IsPlain node)
    (nodes : List NodeRef) :
    withoutLeads (front ++ nodes) = front ++ withoutLeads nodes := by
  induction front with
  | nil =>
      rfl
  | cons node front ih =>
      have hfirst := h node List.mem_cons_self
      have hrest := ih fun node' hnode' => h node' (List.mem_cons_of_mem _ hnode')
      rw [List.cons_append, withoutLeads_plain hfirst, hrest, List.cons_append]

@[simp] theorem nodes_nodeMarks (nodes : List NodeRef) :
    (nodeMarks nodes).filterMap Mark.node? = nodes := by
  induction nodes with
  | nil =>
      rfl
  | cons node nodes ih =>
      exact congrArg (node :: ·) ih

@[simp] theorem rows_nodeMarks (nodes : List NodeRef) :
    (nodeMarks nodes).filterMap Mark.row? = [] := by
  simp [nodeMarks, Mark.row?, Function.comp_def]

theorem nodes_rowMarks
    (number : Nat)
    (rows : List (List Paragraph)) :
    (rowMarks number rows).filterMap Mark.node? = rows.flatten.flatMap Paragraph.walk := by
  induction rows generalizing number with
  | nil =>
      rfl
  | cons cells rows ih =>
      have hrest := ih (number + 1)
      simp [rowMarks, List.filterMap_cons, Mark.node?, hrest]

theorem length_rows_rowMarks
    (number : Nat)
    (rows : List (List Paragraph)) :
    ((rowMarks number rows).filterMap Mark.row?).length = rows.length := by
  induction rows generalizing number with
  | nil =>
      rfl
  | cons cells rows ih =>
      have hrest := ih (number + 1)
      simp [rowMarks, Mark.row?, hrest]

theorem nodes_tableMarks (table : Tree.Table) :
    (tableMarks table).filterMap Mark.node? = table.walkBelow := by
  simp [tableMarks, List.filterMap_cons, Mark.node?, nodes_rowMarks, Tree.Table.walkBelow]

theorem length_rows_tableMarks (table : Tree.Table) :
    ((tableMarks table).filterMap Mark.row?).length = 1 + table.body.length := by
  simp [tableMarks, Mark.row?, length_rows_rowMarks, Nat.add_comm]

/-- The nodes that are drawn are those of the walk, without the paragraphs that lead items. -/
theorem Drawn.nodes
    {nodes : List NodeRef}
    {marks : List Mark}
    (h : Drawn nodes marks) :
    marks.filterMap Mark.node? = withoutLeads nodes := by
  induction h with
  | nil =>
      rfl
  | item id paragraph sublists _ ih =>
      simp [Mark.node?, withoutLeads, ih]
  | table table _ ih =>
      have hbelow : ∀ node ∈ table.walkBelow, IsPlain node :=
        fun node hnode => isPlain_of_mem_walkBelow hnode
      simp [Mark.node?, withoutLeads, withoutLeads_append hbelow, nodes_tableMarks, ih]
  | plain hplain _ ih =>
      simp [Mark.node?, withoutLeads_plain hplain, ih]

/-- The number of rows that are drawn for a node. -/
def rowCount : NodeRef → Nat
  | .block (.table table) => 1 + table.body.length
  | _ => 0

theorem rowCount_of_isPlain
    {node : NodeRef}
    (h : IsPlain node) :
    rowCount node = 0 := by
  cases node with
  | block block =>
      cases block with
      | table _ =>
          exact absurd h id
      | heading _ _ _ | paragraph _ | codeBlock _ _ _ | list _ | blockQuote _ _ =>
          rfl
  | root _ | paragraph _ | inline _ | list _ | item _ _ _ =>
      rfl

theorem sum_rowCount_of_isPlain
    {nodes : List NodeRef}
    (h : ∀ node ∈ nodes, IsPlain node) :
    (nodes.map rowCount).sum = 0 := by
  induction nodes with
  | nil =>
      rfl
  | cons node nodes ih =>
      have hfirst := rowCount_of_isPlain (h node List.mem_cons_self)
      have hrest := ih fun node' hnode' => h node' (List.mem_cons_of_mem _ hnode')
      rw [List.map_cons, List.sum_cons, hfirst, hrest]

/-- Rows are drawn for tables alone. -/
theorem Drawn.length_rows
    {nodes : List NodeRef}
    {marks : List Mark}
    (h : Drawn nodes marks) :
    (marks.filterMap Mark.row?).length = (nodes.map rowCount).sum := by
  induction h with
  | nil =>
      rfl
  | item id paragraph sublists _ ih =>
      simpa [List.filterMap_cons, Mark.row?, rowCount] using ih
  | table table _ ih =>
      have hbelow : (table.walkBelow.map rowCount).sum = 0 :=
        sum_rowCount_of_isPlain fun node hnode => isPlain_of_mem_walkBelow hnode
      simp [List.filterMap_cons, Mark.row?, rowCount, length_rows_tableMarks, hbelow, ih]
  | plain hplain _ ih =>
      simpa [List.filterMap_cons, Mark.row?, rowCount_of_isPlain hplain] using ih

end Counting

section Captions

/-- A drawn node without its place. -/
structure Caption where
  id : Option NodeId
  icon : String
  label : String

mutual

def captions : Drawing → List Caption
  | .mk id icon label children => ⟨id, icon, label⟩ :: captionsAll children

def captionsAll : List Drawing → List Caption
  | [] => []
  | d :: ds => captions d ++ captionsAll ds

end

theorem captionsAll_append (ds ds' : List Drawing) :
    captionsAll (ds ++ ds') = captionsAll ds ++ captionsAll ds' := by
  induction ds with
  | nil =>
      rfl
  | cons d ds ih =>
      simp [captionsAll, ih]

def lineCaption (line : Line) : Caption :=
  ⟨line.id, line.icon, line.label⟩

mutual

/-- The lines of a drawing have its captions, wherever it stands. -/
theorem lineCaption_lines :
    ∀ (d : Drawing) (rails : List Bool) (last : Bool),
      (lines rails last d).map lineCaption = captions d
  | .mk id icon label children, rails, last => by
      rw [lines, List.map_cons, lineCaption_linesAll children, captions]
      rfl

theorem lineCaption_linesAll :
    ∀ (ds : List Drawing) (rails : List Bool),
      (linesAll rails ds).map lineCaption = captionsAll ds
  | [], _ => rfl
  | d :: ds, rails => by
      rw [linesAll, List.map_append, lineCaption_lines d, lineCaption_linesAll ds, captionsAll]

end

/-- Whether a caption shows what a mark stands for. -/
structure Shows (mark : Mark) (caption : Caption) : Prop where
  id : caption.id = mark.id
  icon : caption.icon = mark.icon
  row : ∀ label ∈ mark.row?, caption.label = label

theorem shows_node
    (node : NodeRef)
    (label : String) :
    Shows (.node node) ⟨some node.id, Format.icon node.kind.name, label⟩ where
  id := rfl
  icon := rfl
  row := by
    intro label hlabel
    cases hlabel

theorem shows_row (label : String) :
    Shows (.row label) ⟨none, Format.icon "TableRow", label⟩ where
  id := rfl
  icon := rfl
  row := by
    intro label' hlabel
    exact Option.mem_some_iff.mp hlabel

theorem shows_inlines (content : List Tree.Inline) :
    List.Forall₂ Shows (nodeMarks (content.map NodeRef.inline))
      (captionsAll (content.map Drawing.ofInline)) := by
  induction content with
  | nil =>
      exact .nil
  | cons inline content ih =>
      exact .cons (shows_node (.inline inline) _) ih

theorem shows_paragraph (paragraph : Paragraph) :
    List.Forall₂ Shows (nodeMarks paragraph.walk) (captions (Drawing.ofParagraph paragraph)) :=
  .cons (shows_node (.paragraph paragraph) _) (shows_inlines paragraph.children)

theorem shows_paragraphs (paragraphs : List Paragraph) :
    List.Forall₂ Shows (nodeMarks (paragraphs.flatMap Paragraph.walk))
      (captionsAll (paragraphs.map Drawing.ofParagraph)) := by
  induction paragraphs with
  | nil =>
      exact .nil
  | cons paragraph paragraphs ih =>
      rw [List.flatMap_cons, nodeMarks, List.map_append]
      exact List.rel_append (shows_paragraph paragraph) ih

theorem shows_rows
    (number : Nat)
    (rows : List (List Paragraph)) :
    List.Forall₂ Shows (rowMarks number rows) (captionsAll (Drawing.ofRows number rows)) := by
  induction rows generalizing number with
  | nil =>
      exact .nil
  | cons cells rows ih =>
      exact .cons (shows_row _) (List.rel_append (shows_paragraphs cells) (ih (number + 1)))

theorem shows_table (table : Tree.Table) :
    List.Forall₂ Shows (tableMarks table)
      (captionsAll (Drawing.ofRow "header" table.headers :: Drawing.ofRows 1 table.body)) :=
  .cons (shows_row "header")
    (List.rel_append (shows_paragraphs table.headers) (shows_rows 1 table.body))

end Captions

section Agreement

/-- Whether the captions show the nodes of a walk, one by one. -/
def Follows (nodes : List NodeRef) (captions : List Caption) : Prop :=
  ∃ marks, Drawn nodes marks ∧ List.Forall₂ Shows marks captions

theorem Follows.nil : Follows [] [] :=
  ⟨[], .nil, .nil⟩

theorem Follows.append
    {nodes nodes' : List NodeRef}
    {captions captions' : List Caption}
    (h : Follows nodes captions)
    (h' : Follows nodes' captions') :
    Follows (nodes ++ nodes') (captions ++ captions') := by
  obtain ⟨marks, hdrawn, hshows⟩ := h
  obtain ⟨marks', hdrawn', hshows'⟩ := h'
  exact ⟨marks ++ marks', hdrawn.append hdrawn', List.rel_append hshows hshows'⟩

theorem Follows.plain
    {nodes : List NodeRef}
    {captions : List Caption}
    (node : NodeRef)
    (hnode : IsPlain node)
    (label : String)
    (h : Follows nodes captions) :
    Follows (node :: nodes) (⟨some node.id, icon node.kind.name, label⟩ :: captions) := by
  obtain ⟨marks, hdrawn, hshows⟩ := h
  exact ⟨.node node :: marks, .plain hnode hdrawn, .cons (shows_node node label) hshows⟩

theorem Follows.item
    {nodes : List NodeRef}
    {captions : List Caption}
    (id : NodeId)
    (paragraph : Paragraph)
    (sublists : List ListNode)
    (label : String)
    (h : Follows nodes captions) :
    Follows (.item id paragraph sublists :: .paragraph paragraph :: nodes)
      (⟨some id, icon "ListItem", label⟩ :: captions) := by
  obtain ⟨marks, hdrawn, hshows⟩ := h
  exact ⟨.node (.item id paragraph sublists) :: marks, .item id paragraph sublists hdrawn,
    .cons (shows_node (.item id paragraph sublists) label) hshows⟩

theorem follows_inlines (content : List Tree.Inline) :
    Follows (content.map NodeRef.inline) (captionsAll (content.map Drawing.ofInline)) := by
  refine ⟨nodeMarks (content.map NodeRef.inline), drawn_nodeMarks ?_, shows_inlines content⟩
  intro node hnode
  obtain ⟨inline, _, rfl⟩ := List.mem_map.mp hnode
  trivial

theorem follows_table (table : Tree.Table) :
    Follows (Tree.Block.walk (.table table)) (captions (Drawing.ofTable table)) := by
  have hdrawn := Drawn.table table .nil
  rw [List.append_nil, List.append_nil] at hdrawn
  exact ⟨_, hdrawn, .cons (shows_node (.block (.table table)) _) (shows_table table)⟩

mutual

/-- A list and what lies below it are drawn as they are walked, in whichever role the list is
met. -/
theorem follows_list :
    ∀ (list : ListNode) (node : NodeRef),
      IsPlain node → node.id = list.id → node.kind = .list →
        Follows (node :: list.walkBelow) (captions (Drawing.ofList list))
  | .mk id type depth entries, node, hplain, hid, hkind => by
      have hbelow := (follows_entries entries).plain node hplain
        (listLabel type depth entries.length)
      rw [hid, hkind] at hbelow
      exact hbelow

theorem follows_entry :
    ∀ entry : ListEntry, Follows entry.walk (captions (Drawing.ofEntry entry))
  | .item id paragraph sublists => by
      have hbelow := (follows_inlines paragraph.children).append (follows_lists sublists)
      rw [← captionsAll_append] at hbelow
      exact hbelow.item id paragraph sublists paragraph.text
  | .sublist list => follows_list list (.list list) trivial rfl rfl

theorem follows_entries :
    ∀ entries : List ListEntry,
      Follows (ListEntry.walkAll entries) (captionsAll (Drawing.ofEntries entries))
  | [] => Follows.nil
  | entry :: entries => (follows_entry entry).append (follows_entries entries)

theorem follows_lists :
    ∀ lists : List ListNode,
      Follows (ListNode.walkAll lists) (captionsAll (Drawing.ofLists lists))
  | [] => Follows.nil
  | list :: lists =>
      (follows_list list (.list list) trivial rfl rfl).append (follows_lists lists)

end

mutual

theorem follows_block :
    ∀ block : Tree.Block, Follows block.walk (captions (Drawing.ofBlock block))
  | .heading id level text => Follows.nil.plain (.block (.heading id level text)) trivial _
  | .paragraph p =>
      (follows_inlines p.children).plain (.block (.paragraph p)) trivial _
  | .codeBlock id language code =>
      Follows.nil.plain (.block (.codeBlock id language code)) trivial _
  | .list l => follows_list l (.block (.list l)) trivial rfl rfl
  | .table t => follows_table t
  | .blockQuote id children =>
      (follows_blocks children).plain (.block (.blockQuote id children)) trivial _

theorem follows_blocks :
    ∀ blocks : List Tree.Block,
      Follows (Tree.Block.walkAll blocks) (captionsAll (Drawing.ofBlocks blocks))
  | [] => Follows.nil
  | b :: bs => (follows_block b).append (follows_blocks bs)

end

end Agreement

section Texts

/-- Whether a text is the line that shows what a mark stands for, without an id column. -/
structure ShownBy (limit : Nat) (mark : Mark) (text : String) : Prop where
  shape : ∃ (rails : List Bool) (last : Bool) (label : String),
    text = String.join (rails.map rail) ++ connector last ++ " " ++ mark.icon ++ " " ++
        label ++ "\n" ∧
      ∀ name ∈ mark.row?, label = shorten limit name
  single : text.toList.count '\n' = 1

/-- A line with the id column of a mark in front, if ids are shown. -/
def withColumn (showIds : Bool) (mark : Mark) (text : String) : String :=
  if showIds then
    match mark.id with
    | some id => Text.padded 3 id.index ++ " " ++ text
    | none => "    " ++ text
  else text

theorem idColumn_append
    (style : Treeviz)
    (mark : Mark)
    (text : String) :
    style.idColumn mark.id ++ text = withColumn style.showIds mark text := by
  unfold withColumn
  cases hshow : style.showIds <;> cases hid : mark.id <;> simp [idColumn, hshow]

theorem lineText_eq_idColumn_append
    (style : Treeviz)
    (line : Line) :
    style.lineText line =
      style.idColumn line.id ++ lineText ⟨false, style.maxLabel⟩ line := by
  cases hid : line.id <;> simp [lineText, idColumn, hid, String.append_assoc]

theorem shownBy_lineText
    {mark : Mark}
    {line : Line}
    (h : Shows mark (lineCaption line))
    (limit : Nat) :
    ShownBy limit mark (lineText ⟨false, limit⟩ line) where
  shape := by
    have hicon : line.icon = mark.icon := h.icon
    refine ⟨line.rails, line.last, shorten limit line.label, ?_, ?_⟩
    · cases hid : line.id <;> simp [lineText, idColumn, hid, hicon]
    · intro name hname
      have hlabel : line.label = name := h.row name hname
      rw [hlabel]
  single := by
    have hicon : IsGlyph line.icon := by
      rw [show line.icon = mark.icon from h.icon]
      cases mark <;> exact isGlyph_icon _
    have hlegible : IsLegible false none line.icon (shorten limit line.label) :=
      ⟨fun _ => rfl, hicon, break_notMem_shorten limit line.label⟩
    have hbreak : '\n' ∉ lineChars false (seenLine ⟨false, limit⟩ line) :=
      break_notMem_lineChars hlegible
    rw [toList_lineText, List.count_append, List.count_eq_zero.mpr hbreak]
    rfl

theorem map_lineText_eq_zipWith
    (style : Treeviz)
    {marks : List Mark}
    {ls : List Line}
    (h : List.Forall₂ Shows marks (ls.map lineCaption)) :
    ls.map style.lineText =
      List.zipWith (withColumn style.showIds) marks
        (ls.map (lineText ⟨false, style.maxLabel⟩)) := by
  induction ls generalizing marks with
  | nil =>
      cases h
      rfl
  | cons line ls ih =>
      cases h with
      | @cons mark _ marks _ hfirst hrest =>
          have hid : line.id = mark.id := hfirst.id
          rw [List.map_cons, List.map_cons, List.zipWith_cons_cons, ih hrest,
            lineText_eq_idColumn_append, hid, idColumn_append]

/-- The line of the root without an id column. -/
def rootText (root : Tree.Root) : String :=
  icon (NodeRef.root root).kind.name ++ " Root (" ++ toString root.children.length ++ " blocks)\n"

theorem rootLine_eq_withColumn
    (style : Treeviz)
    (root : Tree.Root) :
    style.rootLine root = withColumn style.showIds (.node (.root root)) (rootText root) := by
  rw [← idColumn_append, rootLine, rootText]
  simp only [String.append_assoc]
  rfl

end Texts

/-- **Agreement with the walk.**  The lines of a visualization stand, one by one and in order, for
the nodes of the walk without the paragraphs that lead items, and for the rows of the tables.  A
line shows the icon of its node.  The parameters do not change what the lines stand for, and without
the id column the lines depend on the maximal length of a label alone: showing the ids puts a column
in front of each line and changes nothing else. -/
theorem treeviz_follows_walk (root : Tree.Root) :
    ∃ (marks : List Mark) (texts : Nat → List String),
      Drawn root.walk (.node (.root root) :: marks) ∧
      .root root :: marks.filterMap Mark.node? = withoutLeads root.walk ∧
      (marks.filterMap Mark.row?).length = (root.walk.map rowCount).sum ∧
      (∀ limit, List.Forall₂ (ShownBy limit) marks (texts limit)) ∧
      ∀ params : Params,
        treeviz params root =
          String.join
            (List.zipWith (withColumn (params.flag "show-ids" false))
              (.node (.root root) :: marks)
              (rootText root :: texts (params.number "max-label" defaultMaxLabel))) := by
  obtain ⟨marks, hdrawn, hshows⟩ := follows_blocks root.children
  have hwalk : Drawn root.walk (.node (.root root) :: marks) := .plain trivial hdrawn
  have hlines : List.Forall₂ Shows marks
      ((linesAll [] (Drawing.ofBlocks root.children)).map lineCaption) := by
    rw [lineCaption_linesAll]
    exact hshows
  refine ⟨marks, fun limit =>
    (linesAll [] (Drawing.ofBlocks root.children)).map (lineText ⟨false, limit⟩),
    hwalk, hwalk.nodes, hwalk.length_rows, ?_, ?_⟩
  · intro limit
    apply List.forall₂_map_right_iff.mpr
    exact (List.forall₂_map_right_iff.mp hlines).imp fun _ _ h => shownBy_lineText h limit
  · intro params
    rw [treeviz, text, rootLine_eq_withColumn, map_lineText_eq_zipWith _ hlines,
      List.zipWith_cons_cons, String.join_cons]
    rfl

end Treeviz
end Format
end DocTree
