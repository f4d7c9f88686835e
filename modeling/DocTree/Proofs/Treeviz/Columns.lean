import DocTree.Proofs.Build.Account
import DocTree.Proofs.Treeviz.Agreement
import DocTree.Proofs.Treeviz.Rails

/-!
# The id column of a visualization

If ids are shown, every row starts with an id column.  An id is written with at least three digits
and a space behind it, and the row of a table, which has no id, has four spaces.  So the rows are
aligned as long as three digits are enough, and a longer id moves everything behind it to the right.

**Widths.**  `columnWidth` is the number of characters of a row in front of its rails, and
`connectorColumn` the number of characters in front of its connector, which are the id column and
the rails (`connectorColumn_lineChars`).

**Ids.**  The ids that are shown below the root are those of the nodes of the walk without the
paragraphs that lead items (`filterMap_id_lines`).  In a built tree they increase from zero on, so
the rows of a tree are aligned exactly if no id of four digits is drawn.
-/

namespace DocTree
namespace Format
namespace Treeviz

open DocTree.Tree (NodeId NodeRef)

section Widths

theorem length_idChars_some (id : NodeId) :
    (idChars true (some id)).length = max 3 (Nat.toDigits 10 id.index).length + 1 := by
  rw [idChars_some, List.length_append, List.length_leftpad, List.length_singleton]

/-- An id is as wide as a blank id column exactly if three digits are enough for it. -/
theorem length_idChars_some_eq_iff (id : NodeId) :
    (idChars true (some id)).length = (idChars true none).length ↔ id.index < 1000 := by
  have hdigits : (Nat.toDigits 10 id.index).length ≤ 3 ↔ id.index < 10 ^ 3 :=
    Nat.length_toDigits_le_iff (by decide) (by decide)
  have hblank : (idChars true none).length = 4 := by
    rfl
  rw [length_idChars_some, hblank]
  omega

/-- The number of characters of the id column of a row. -/
def columnWidth (showIds : Bool) (row : List Char) : Nat :=
  row.length - (behindId showIds row).length

theorem behindId_append
    {showIds : Bool}
    {id : Option NodeId}
    (hid : showIds = false → id = none)
    (rest : List Char) :
    behindId showIds (idChars showIds id ++ rest) = rest := by
  rw [behindId, readId_idChars hid]
  rfl

theorem columnWidth_append
    {showIds : Bool}
    {id : Option NodeId}
    (hid : showIds = false → id = none)
    (rest : List Char) :
    columnWidth showIds (idChars showIds id ++ rest) = (idChars showIds id).length := by
  rw [columnWidth, behindId_append hid, List.length_append, Nat.add_sub_cancel]

/-- Whether a connector starts with a character. -/
def startsConnector (c : Char) : Bool :=
  c == '├' || c == '└'

/-- The number of characters in front of the connector of a row. -/
def connectorColumn (row : List Char) : Nat :=
  row.findIdx startsConnector

theorem startsConnector_idChars
    (showIds : Bool)
    (id : Option NodeId) :
    ∀ c ∈ idChars showIds id, startsConnector c = false := by
  intro c hc
  cases showIds with
  | false =>
      cases id <;> contradiction
  | true =>
      cases id with
      | none =>
          have hblank : c ∈ List.replicate 4 ' ' := hc
          obtain rfl := List.eq_of_mem_replicate hblank
          rfl
      | some id =>
          rw [idChars_some] at hc
          rcases List.mem_append.mp hc with hdigit | hspace
          · have hdigit := isDigit_of_mem_leftpad hdigit
            have hfork : c ≠ '├' := by
              rintro rfl
              exact absurd hdigit (by decide)
            have hcorner : c ≠ '└' := by
              rintro rfl
              exact absurd hdigit (by decide)
            simp [startsConnector, hfork, hcorner]
          · obtain rfl := List.mem_singleton.mp hspace
            rfl

theorem startsConnector_rails (rails : List Bool) :
    ∀ c ∈ rails.flatMap (fun runs => (rail runs).toList), startsConnector c = false := by
  intro c hc
  obtain ⟨runs, _, hrail⟩ := List.mem_flatMap.mp hc
  cases runs with
  | false =>
      have hblank : c ∈ List.replicate 2 ' ' := hrail
      obtain rfl := List.eq_of_mem_replicate hblank
      rfl
  | true =>
      have hrunning : c ∈ ['│', ' '] := hrail
      rcases List.mem_pair.mp hrunning with rfl | rfl <;> rfl

theorem length_rails (rails : List Bool) :
    (rails.flatMap fun runs => (rail runs).toList).length = 2 * rails.length := by
  induction rails with
  | nil =>
      rfl
  | cons runs rails ih =>
      rw [List.flatMap_cons, List.length_append, length_rail, ih, List.length_cons]
      omega

/-- In front of the connector of a row stand its id column and its rails. -/
theorem connectorColumn_lineChars
    (showIds : Bool)
    (line : Line) :
    connectorColumn (lineChars showIds line) =
      (idChars showIds line.id).length + 2 * lineDepth line := by
  have hfront : ∀ c ∈ idChars showIds line.id ++
      line.rails.flatMap (fun runs => (rail runs).toList), startsConnector c = false := by
    intro c hc
    rcases List.mem_append.mp hc with hid | hrail
    · exact startsConnector_idChars showIds line.id c hid
    · exact startsConnector_rails line.rails c hrail
  have hconnector : ∀ rest : List Char,
      ((connector line.last).toList ++ rest).findIdx startsConnector = 0 := by
    intro rest
    cases line.last <;> rfl
  rw [connectorColumn, lineChars, ← List.append_assoc, List.findIdx_append,
    List.findIdx_eq_length_of_false hfront, if_neg (Nat.lt_irrefl _), hconnector,
    List.length_append, length_rails, Nat.zero_add]
  rfl

end Widths

section Alignment

/-- Whether the id column has the width of that of the first row on every row, and connectors of
equal depth stand in the same column. -/
structure Aligned (showIds : Bool) (top : List Char) (rows : List (List Char)) : Prop where
  widths : ∀ row ∈ rows, columnWidth showIds row = columnWidth showIds top
  connectors : ∀ row ∈ rows, ∀ row' ∈ rows,
    rowDepth showIds row = rowDepth showIds row' → connectorColumn row = connectorColumn row'

theorem columnWidth_lineChars
    {showIds : Bool}
    {line : Line}
    (h : IsLegible showIds line.id line.icon line.label) :
    columnWidth showIds (lineChars showIds line) = (idChars showIds line.id).length :=
  columnWidth_append h.1 _

/-- Rows are aligned exactly if their ids are as wide as the one of the root. -/
theorem aligned_rows_iff
    {showIds : Bool}
    {picture : Picture}
    {ls : List Line}
    (hid : showIds = false → picture.id = none)
    (h : ∀ line ∈ ls, IsLegible showIds line.id line.icon line.label) :
    Aligned showIds (topChars showIds picture) (ls.map (lineChars showIds)) ↔
      ∀ line ∈ ls, (idChars showIds line.id).length = (idChars showIds picture.id).length := by
  have htop : columnWidth showIds (topChars showIds picture) =
      (idChars showIds picture.id).length :=
    columnWidth_append hid _
  constructor
  · intro haligned line hline
    rw [← columnWidth_lineChars (h line hline), ← htop]
    exact haligned.widths _ (List.mem_map_of_mem hline)
  · intro hwidths
    constructor
    · intro row hrow
      obtain ⟨line, hline, rfl⟩ := List.mem_map.mp hrow
      rw [columnWidth_lineChars (h line hline), htop, hwidths line hline]
    · intro row hrow row' hrow' hdepth
      obtain ⟨line, hline, rfl⟩ := List.mem_map.mp hrow
      obtain ⟨line', hline', rfl⟩ := List.mem_map.mp hrow'
      rw [rowDepth_lineChars (h line hline), rowDepth_lineChars (h line' hline')] at hdepth
      rw [connectorColumn_lineChars, connectorColumn_lineChars, hwidths line hline,
        hwidths line' hline', hdepth]

end Alignment

section Ids

theorem ids_marks
    {marks : List Mark}
    {captions : List Caption}
    (h : List.Forall₂ Shows marks captions) :
    captions.map Caption.id = marks.map Mark.id := by
  induction h with
  | nil =>
      rfl
  | cons hfirst _ ih =>
      rw [List.map_cons, List.map_cons, hfirst.id, ih]

theorem id_eq_node?_id (mark : Mark) :
    mark.id = mark.node?.map NodeRef.id := by
  cases mark <;> rfl

/-- The ids in the lines of some blocks are those of the nodes of the walk, without the paragraphs
that lead items. -/
theorem filterMap_id_lines (blocks : List Tree.Block) :
    (linesAll [] (Drawing.ofBlocks blocks)).filterMap Line.id =
      (withoutLeads (Tree.Block.walkAll blocks)).map NodeRef.id := by
  obtain ⟨marks, hdrawn, hshows⟩ := follows_blocks blocks
  have hids : (linesAll [] (Drawing.ofBlocks blocks)).map Line.id = marks.map Mark.id := by
    rw [← ids_marks hshows, ← lineCaption_linesAll _ [], List.map_map]
    rfl
  calc
    (linesAll [] (Drawing.ofBlocks blocks)).filterMap Line.id =
        ((linesAll [] (Drawing.ofBlocks blocks)).map Line.id).filterMap id := by
      rw [List.filterMap_map]
      rfl
    _ = marks.filterMap Mark.id := by
      rw [hids, List.filterMap_map]
      rfl
    _ = (marks.filterMap Mark.node?).map NodeRef.id := by
      rw [List.map_filterMap]
      exact List.filterMap_congr fun mark _ => id_eq_node?_id mark
    _ = (withoutLeads (Tree.Block.walkAll blocks)).map NodeRef.id := by
      rw [hdrawn.nodes]

end Ids

section Leads

theorem withoutLeads_sublist (nodes : List NodeRef) :
    (withoutLeads nodes).Sublist nodes := by
  fun_induction withoutLeads nodes with
  | case1 =>
      exact List.Sublist.slnil
  | case2 id paragraph sublists lead nodes ih =>
      exact (ih.cons _).cons_cons _
  | case3 node nodes _ ih =>
      exact ih.cons_cons _

theorem head_mem_withoutLeads
    (node : NodeRef)
    (nodes : List NodeRef) :
    node ∈ withoutLeads (node :: nodes) := by
  unfold withoutLeads
  split <;> simp_all

/-- Of two nodes that are met one after the other, one at least leads no item. -/
theorem mem_withoutLeads_or
    (front : List NodeRef)
    (node next : NodeRef)
    (behind : List NodeRef) :
    node ∈ withoutLeads (front ++ node :: next :: behind) ∨
      next ∈ withoutLeads (front ++ node :: next :: behind) := by
  generalize hnodes : front ++ node :: next :: behind = nodes
  fun_induction withoutLeads nodes generalizing front with
  | case1 =>
      simp at hnodes
  | case2 id paragraph sublists lead nodes ih =>
      cases front with
      | nil =>
          obtain ⟨rfl, _⟩ := List.cons.inj hnodes
          exact Or.inl List.mem_cons_self
      | cons first front =>
          have hlead := (List.cons.inj hnodes).2
          cases front with
          | nil =>
              -- The node is the paragraph, so the next one starts what is behind the item.
              obtain ⟨_, rfl⟩ := List.cons.inj hlead
              exact Or.inr (List.mem_cons_of_mem _ (head_mem_withoutLeads next behind))
          | cons second front =>
              have hrest := ih front (List.cons.inj hlead).2
              exact hrest.imp (List.mem_cons_of_mem _) (List.mem_cons_of_mem _)
  | case3 first nodes _ ih =>
      cases front with
      | nil =>
          obtain ⟨rfl, _⟩ := List.cons.inj hnodes
          exact Or.inl List.mem_cons_self
      | cons first' front =>
          have hrest := ih front (List.cons.inj hnodes).2
          exact hrest.imp (List.mem_cons_of_mem _) (List.mem_cons_of_mem _)

end Leads

section Trees

/-- A text is split into the row of the root and the rows of the drawn nodes. -/
theorem splitRows_treeviz
    (params : Params)
    (root : Tree.Root) :
    splitRows (treeviz params root).toList =
      some (((ofParams params).picture root).rows (ofParams params).showIds) := by
  rw [treeviz, toList_text]
  exact splitRows_rows (break_notMem_rows (ofParams params) root)

/-- Ids are as wide as a blank id column exactly if three digits are enough for all of them. -/
theorem length_idChars_lines_iff (ls : List Line) :
    (∀ line ∈ ls, (idChars true line.id).length = (idChars true none).length) ↔
      ∀ id ∈ ls.filterMap Line.id, id.index < 1000 := by
  constructor
  · intro hwidths id hmem
    obtain ⟨line, hline, hid⟩ := List.mem_filterMap.mp hmem
    have hwidth := hwidths line hline
    rw [hid] at hwidth
    exact (length_idChars_some_eq_iff id).mp hwidth
  · intro hids line hline
    cases hid : line.id with
    | none =>
        rfl
    | some id =>
        have hmem : id ∈ ls.filterMap Line.id := List.mem_filterMap.mpr ⟨line, hline, hid⟩
        exact (length_idChars_some_eq_iff id).mpr (hids id hmem)

/-- Under a root with a short id, the rows of a tree are aligned exactly if no node with an id of
four digits is drawn, or no ids are shown. -/
theorem aligned_iff
    (style : Treeviz)
    {root : Tree.Root}
    (hroot : root.id.index < 1000) :
    Aligned style.showIds (topChars style.showIds (style.picture root))
        ((linesAll [] (style.picture root).forest).map (lineChars style.showIds)) ↔
      (style.showIds = true → ∀ node ∈ withoutLeads root.walk, node.id.index < 1000) := by
  rw [aligned_rows_iff (picture_id_of_hidden style root) (legible_lines style root)]
  cases hshow : style.showIds with
  | false =>
      have hempty : ∀ id, idChars false id = [] := by
        intro id
        cases id <;> rfl
      simp [hempty]
  | true =>
      have hseen : ∀ id, style.seenId id = id := by
        intro id
        rw [seenId, if_pos hshow]
      have htop : (idChars true (style.picture root).id).length = (idChars true none).length := by
        rw [picture, hseen]
        exact (length_idChars_some_eq_iff root.id).mpr hroot
      have hids : (linesAll [] (style.picture root).forest).filterMap Line.id =
          (withoutLeads (Tree.Block.walkAll root.children)).map NodeRef.id := by
        rw [← filterMap_id_lines, picture, linesAll_seenAll, List.filterMap_map]
        exact List.filterMap_congr fun line _ => hseen line.id
      have hplain : IsPlain (.root root) := trivial
      have hwalk : withoutLeads root.walk =
          .root root :: withoutLeads (Tree.Block.walkAll root.children) :=
        withoutLeads_plain hplain _
      rw [htop, length_idChars_lines_iff, hids, hwalk]
      constructor
      · intro hbelow _ node hnode
        rcases List.mem_cons.mp hnode with rfl | hmem
        · exact hroot
        · exact hbelow node.id (List.mem_map_of_mem hmem)
      · intro hall id hid
        obtain ⟨node, hnode, rfl⟩ := List.mem_map.mp hid
        exact hall rfl node (List.mem_cons_of_mem _ hnode)

end Trees

section Builds

open DocTree.Build (build)

/-- A node of a built tree has the number of its place on the walk. -/
theorem index_getElem_walk_build
    (doc : Markup.Document)
    (options : Build.Options)
    (place : Nat)
    (h : place < (build doc options).root.walk.length) :
    ((build doc options).root.walk[place]).id.index = place := by
  have hids := congrArg (fun ids => ids[place]?) (Build.index_walk_build doc options)
  simpa [h] using hids

/-- A tree with more than 1001 nodes has a drawn one with an id of four digits. -/
theorem exists_wide_id
    (doc : Markup.Document)
    (options : Build.Options)
    (h : 1001 < (build doc options).root.walk.length) :
    ∃ node ∈ withoutLeads (build doc options).root.walk, 1000 ≤ node.id.index := by
  have hnode := index_getElem_walk_build doc options 1000 (by omega)
  have hnext := index_getElem_walk_build doc options 1001 h
  have hor := mem_withoutLeads_or ((build doc options).root.walk.take 1000)
    (build doc options).root.walk[1000] (build doc options).root.walk[1001]
    ((build doc options).root.walk.drop 1002)
  rw [← List.drop_eq_getElem_cons, ← List.drop_eq_getElem_cons, List.take_append_drop] at hor
  rcases hor with hmem | hmem
  · exact ⟨_, hmem, by omega⟩
  · exact ⟨_, hmem, by omega⟩

/-- Up to 1000 nodes there are no ids of four digits. -/
theorem index_lt_of_length_walk_le
    {doc : Markup.Document}
    {options : Build.Options}
    (h : (build doc options).root.walk.length ≤ 1000) :
    ∀ node ∈ withoutLeads (build doc options).root.walk, node.id.index < 1000 := by
  intro node hnode
  have hmem : node.id.index ∈
      (build doc options).root.walk.map fun node => node.id.index :=
    List.mem_map_of_mem ((withoutLeads_sublist _).subset hnode)
  rw [Build.index_walk_build, List.mem_range] at hmem
  omega

/-- **Columns.**  If ids are shown, the id column of a built tree has the same width on every row,
and connectors of equal depth stand in the same column, exactly if no node with an id of four digits
is drawn.  So every tree of at most 1000 nodes is aligned, and no tree of more than 1001 is.  If ids
are not shown, every tree is aligned.  A connector always stands behind the id column and two
characters for each level. -/
theorem columns_aligned_iff
    (doc : Markup.Document)
    (options : Build.Options)
    (params : Params) :
    let showIds := params.flag "show-ids" false
    let root := (build doc options).root
    ∃ top rows,
      splitRows (treeviz params root).toList = some (top :: rows) ∧
      (∀ row ∈ rows,
        connectorColumn row = columnWidth showIds row + 2 * rowDepth showIds row) ∧
      (Aligned showIds top rows ↔
        (showIds = true → ∀ node ∈ withoutLeads root.walk, node.id.index < 1000)) ∧
      (root.walk.length ≤ 1000 → Aligned showIds top rows) ∧
      (showIds = true → Aligned showIds top rows → root.walk.length ≤ 1001) := by
  intro showIds root
  have hroot : root.id.index < 1000 := Nat.zero_lt_succ 999
  have haligned := aligned_iff (ofParams params) hroot
  refine ⟨_, _, splitRows_treeviz params root, ?_, haligned, ?_, ?_⟩
  · intro row hrow
    obtain ⟨line, hline, rfl⟩ := List.mem_map.mp hrow
    have hlegible := legible_lines (ofParams params) root line hline
    have hcolumn := connectorColumn_lineChars (ofParams params).showIds line
    rw [← columnWidth_lineChars hlegible, ← rowDepth_lineChars hlegible] at hcolumn
    exact hcolumn
  · intro hfew
    exact haligned.mpr fun _ => index_lt_of_length_walk_le hfew
  · intro hshow hrows
    by_contra hmany
    obtain ⟨node, hnode, hwide⟩ := exists_wide_id doc options (Nat.lt_of_not_le hmany)
    exact absurd (haligned.mp hrows hshow node hnode) (Nat.not_lt_of_le hwide)

/-- Behind 999 headings there is one whose id has four digits, and its connector stands one
character to the right of the others. -/
theorem columns_misaligned_headings :
    let doc : Markup.Document := ⟨List.replicate 1000 (.heading 1 [.text "a"])⟩
    ∃ top rows,
      splitRows (treeviz ⟨[("show-ids", "true")]⟩ (build doc {}).root).toList =
        some (top :: rows) ∧
      "999 ├─ § h1 a".toList ∈ rows ∧
      "1000 └─ § h1 a".toList ∈ rows ∧
      ¬ Aligned true top rows := by
  intro doc
  have hstyle : ofParams ⟨[("show-ids", "true")]⟩ = ⟨true, 30⟩ := by
    rfl
  have hends : (linesAll [] (Drawing.ofBlocks (build doc {}).root.children)).drop 998 =
      [⟨some ⟨999⟩, [], false, "§", "h1 a"⟩, ⟨some ⟨1000⟩, [], true, "§", "h1 a"⟩] := by
    decide +kernel
  have hrows : ((linesAll [] (picture ⟨true, 30⟩ (build doc {}).root).forest).map
      (lineChars true)).drop 998 = ["999 ├─ § h1 a".toList, "1000 └─ § h1 a".toList] := by
    rw [picture, linesAll_seenAll, List.map_map, ← List.map_drop, hends]
    rfl
  have hsplit := splitRows_treeviz ⟨[("show-ids", "true")]⟩ (build doc {}).root
  rw [hstyle, Picture.rows] at hsplit
  generalize (linesAll [] (picture ⟨true, 30⟩ (build doc {}).root).forest).map (lineChars true) =
    rows at hrows hsplit
  have hshort : "999 ├─ § h1 a".toList ∈ rows := by
    apply List.mem_of_mem_drop
    rw [hrows]
    exact List.mem_cons_self
  have hlong : "1000 └─ § h1 a".toList ∈ rows := by
    apply List.mem_of_mem_drop
    rw [hrows]
    exact List.mem_cons_of_mem _ List.mem_cons_self
  refine ⟨_, rows, hsplit, hshort, hlong, ?_⟩
  intro haligned
  have hwidths := (haligned.widths _ hshort).trans (haligned.widths _ hlong).symm
  exact absurd hwidths (by decide)

end Builds

end Treeviz
end Format
end DocTree
