import DocTree.Format.Treeviz
import Mathlib.Data.List.Basic

/-!
# What is seen of a tree

A `Picture` is what a visualization shows of a tree: the number of its root blocks and the forest of
drawn nodes, each with its icon, with its label as it is written, and with its id if ids are shown.
The text of a visualization is the picture written down row by row (`toList_text`), so it depends on
nothing else.

**Legibility.**  Whatever stands in the texts of a tree, the picture of it is legible
(`legible_picture`): an icon is one character, no icon and no label breaks a line, and there are no
ids unless they are shown.
-/

namespace DocTree
namespace Format

open DocTree.Tree (NodeId ListNode ListEntry Paragraph)

namespace Drawing

mutual

/-- Number of nodes of a drawing. -/
def size : Drawing → Nat
  | .mk _ _ _ children => 1 + sizeAll children

def sizeAll : List Drawing → Nat
  | [] => 0
  | d :: ds => size d + sizeAll ds

end

mutual

/-- Whether a property holds of the id, the icon and the label of every node of a drawing. -/
def All (P : Option NodeId → String → String → Prop) : Drawing → Prop
  | .mk id icon label children => P id icon label ∧ AllIn P children

def AllIn (P : Option NodeId → String → String → Prop) : List Drawing → Prop
  | [] => True
  | d :: ds => All P d ∧ AllIn P ds

end

theorem allIn_iff
    {P : Option NodeId → String → String → Prop}
    {ds : List Drawing} :
    AllIn P ds ↔ ∀ d ∈ ds, All P d := by
  induction ds with
  | nil =>
      simp [AllIn]
  | cons d ds ih =>
      simp [AllIn, ih]

end Drawing

section Icons

/-- Whether an icon is one character, and that breaks no line. -/
def IsGlyph (icon : String) : Prop :=
  ∃ c : Char, icon.toList = [c] ∧ c ≠ '\n'

theorem isGlyph_of_mem
    {entry : String × String}
    (h : entry ∈ icons) :
    IsGlyph entry.2 := by
  have htable : ∀ entry ∈ icons, entry.2.toList.length = 1 ∧ '\n' ∉ entry.2.toList := by decide
  obtain ⟨hlength, hbreak⟩ := htable entry h
  obtain ⟨c, hc⟩ := List.length_eq_one_iff.mp hlength
  rw [hc, List.mem_singleton] at hbreak
  exact ⟨c, hc, Ne.symm hbreak⟩

/-- Every name has an icon of one character. -/
theorem isGlyph_icon (name : String) :
    IsGlyph (icon name) := by
  rw [icon]
  cases hlookup : icons.lookup name with
  | none =>
      exact ⟨'○', rfl, by decide⟩
  | some glyph =>
      obtain ⟨front, behind, hicons, _⟩ := List.lookup_eq_some_iff.mp hlookup
      have hmem : (name, glyph) ∈ icons := by
        rw [hicons]
        exact List.mem_append_right _ List.mem_cons_self
      exact isGlyph_of_mem hmem

/-- Whether every icon in a drawing is one character. -/
abbrev HasGlyphs : Drawing → Prop :=
  Drawing.All fun _ icon _ => IsGlyph icon

abbrev HaveGlyphs : List Drawing → Prop :=
  Drawing.AllIn fun _ icon _ => IsGlyph icon

theorem haveGlyphs_inlines (content : List Tree.Inline) :
    HaveGlyphs (content.map Drawing.ofInline) := by
  apply Drawing.allIn_iff.mpr
  intro d hd
  obtain ⟨inline, _, rfl⟩ := List.mem_map.mp hd
  exact ⟨isGlyph_icon _, trivial⟩

theorem hasGlyphs_paragraph (paragraph : Paragraph) :
    HasGlyphs (Drawing.ofParagraph paragraph) :=
  ⟨isGlyph_icon _, haveGlyphs_inlines paragraph.children⟩

mutual

theorem hasGlyphs_list :
    ∀ list : ListNode, HasGlyphs (Drawing.ofList list)
  | .mk _ _ _ entries => ⟨isGlyph_icon _, haveGlyphs_entries entries⟩

theorem hasGlyphs_entry :
    ∀ entry : ListEntry, HasGlyphs (Drawing.ofEntry entry)
  | .item _ paragraph sublists => by
      have hinlines := Drawing.allIn_iff.mp (haveGlyphs_inlines paragraph.children)
      have hlists := Drawing.allIn_iff.mp (haveGlyphs_lists sublists)
      refine ⟨isGlyph_icon _, Drawing.allIn_iff.mpr ?_⟩
      intro d hd
      rcases List.mem_append.mp hd with hd | hd
      · exact hinlines d hd
      · exact hlists d hd
  | .sublist list => hasGlyphs_list list

theorem haveGlyphs_entries :
    ∀ entries : List ListEntry, HaveGlyphs (Drawing.ofEntries entries)
  | [] => trivial
  | entry :: entries => ⟨hasGlyphs_entry entry, haveGlyphs_entries entries⟩

theorem haveGlyphs_lists :
    ∀ lists : List ListNode, HaveGlyphs (Drawing.ofLists lists)
  | [] => trivial
  | list :: lists => ⟨hasGlyphs_list list, haveGlyphs_lists lists⟩

end

theorem hasGlyphs_row
    (label : String)
    (cells : List Paragraph) :
    HasGlyphs (Drawing.ofRow label cells) := by
  refine ⟨isGlyph_icon _, Drawing.allIn_iff.mpr ?_⟩
  intro d hd
  obtain ⟨cell, _, rfl⟩ := List.mem_map.mp hd
  exact hasGlyphs_paragraph cell

theorem haveGlyphs_rows
    (number : Nat)
    (rows : List (List Paragraph)) :
    HaveGlyphs (Drawing.ofRows number rows) := by
  induction rows generalizing number with
  | nil =>
      trivial
  | cons cells rows ih =>
      exact ⟨hasGlyphs_row _ cells, ih (number + 1)⟩

mutual

theorem hasGlyphs_block :
    ∀ block : Tree.Block, HasGlyphs (Drawing.ofBlock block)
  | .heading _ _ _ => ⟨isGlyph_icon _, trivial⟩
  | .paragraph p => hasGlyphs_paragraph p
  | .codeBlock _ _ _ => ⟨isGlyph_icon _, trivial⟩
  | .list l => hasGlyphs_list l
  | .table t => ⟨isGlyph_icon _, hasGlyphs_row _ t.headers, haveGlyphs_rows 1 t.body⟩
  | .blockQuote _ children => ⟨isGlyph_icon _, haveGlyphs_blocks children⟩

/-- Every icon drawn for a run of blocks is one character. -/
theorem haveGlyphs_blocks :
    ∀ blocks : List Tree.Block, HaveGlyphs (Drawing.ofBlocks blocks)
  | [] => trivial
  | b :: bs => ⟨hasGlyphs_block b, haveGlyphs_blocks bs⟩

end

end Icons

namespace Treeviz

section Pictures

variable (style : Treeviz)

/-- The id of a node, if ids are shown. -/
def seenId (id : Option NodeId) : Option NodeId :=
  if style.showIds then id else none

mutual

/-- A drawing as it is seen: with its labels as they are written, and without ids that are not
shown. -/
def seen : Drawing → Drawing
  | .mk id icon label children =>
      .mk (style.seenId id) icon (shorten style.maxLabel label) (seenAll children)

def seenAll : List Drawing → List Drawing
  | [] => []
  | d :: ds => seen d :: seenAll ds

end

end Pictures

/-- What a visualization shows of a tree. -/
structure Picture where
  /-- The id of the root, if ids are shown. -/
  id : Option NodeId
  blocks : Nat
  forest : List Drawing

def picture (style : Treeviz) (root : Tree.Root) : Picture where
  id := style.seenId (some root.id)
  blocks := root.children.length
  forest := style.seenAll (Drawing.ofBlocks root.children)

section Writing

/-- The id column of a row. -/
def idChars (showIds : Bool) (id : Option NodeId) : List Char :=
  (idColumn ⟨showIds, 0⟩ id).toList

/-- A line of a picture as it is written, up to its line break. -/
def lineChars (showIds : Bool) (line : Line) : List Char :=
  idChars showIds line.id ++
    (line.rails.flatMap (fun runsOn => (rail runsOn).toList) ++
      ((connector line.last).toList ++
        ' ' :: (line.icon.toList ++ ' ' :: line.label.toList)))

/-- The first row of a picture as it is written, up to its line break. -/
def topChars (showIds : Bool) (picture : Picture) : List Char :=
  idChars showIds picture.id ++
    ("⧉ Root (".toList ++ (Nat.toDigits 10 picture.blocks ++ " blocks)".toList))

def Picture.rows (showIds : Bool) (picture : Picture) : List (List Char) :=
  topChars showIds picture :: (linesAll [] picture.forest).map (lineChars showIds)

variable (style : Treeviz)

def seenLine (line : Line) : Line :=
  { line with id := style.seenId line.id, label := shorten style.maxLabel line.label }

mutual

/-- The lines of a drawing are seen as the lines of the drawing that is seen. -/
theorem lines_seen :
    ∀ (d : Drawing) (rails : List Bool) (last : Bool),
      lines rails last (style.seen d) = (lines rails last d).map style.seenLine
  | .mk id icon label children, rails, last => by
      rw [seen, lines, lines, linesAll_seenAll children, List.map_cons]
      rfl

theorem linesAll_seenAll :
    ∀ (ds : List Drawing) (rails : List Bool),
      linesAll rails (style.seenAll ds) = (linesAll rails ds).map style.seenLine
  | [], _ => rfl
  | d :: ds, rails => by
      have hempty : (style.seenAll ds).isEmpty = ds.isEmpty := by
        cases ds <;> rfl
      rw [seenAll, linesAll, linesAll, hempty, lines_seen d, linesAll_seenAll ds, List.map_append]

end

/-- The id column shows what is seen of the id. -/
theorem idChars_seenId (id : Option NodeId) :
    idChars style.showIds (style.seenId id) = (style.idColumn id).toList := by
  unfold seenId idChars
  cases hids : style.showIds <;> cases id <;> simp [idColumn, hids]

theorem toList_lineText (line : Line) :
    (style.lineText line).toList =
      lineChars style.showIds (style.seenLine line) ++ ['\n'] := by
  simp [lineText, lineChars, seenLine, idChars_seenId, String.toList_join, List.flatMap_map]

theorem toList_rootLine (root : Tree.Root) :
    (style.rootLine root).toList =
      topChars style.showIds (style.picture root) ++ ['\n'] := by
  have hicon : icon "Root" = "⧉" := by decide
  simp [rootLine, topChars, picture, idChars_seenId, hicon]

/-- The text of a visualization is its picture, row by row. -/
theorem toList_text (root : Tree.Root) :
    (style.text root).toList =
      ((style.picture root).rows style.showIds).flatMap (fun row => row ++ ['\n']) := by
  have hlines :
      (String.join ((linesAll [] (Drawing.ofBlocks root.children)).map style.lineText)).toList =
        ((linesAll [] (style.picture root).forest).map (lineChars style.showIds)).flatMap
          (fun row => row ++ ['\n']) := by
    rw [picture, linesAll_seenAll]
    simp only [String.toList_join, List.flatMap_map, toList_lineText]
  rw [text, String.toList_append, toList_rootLine, hlines, Picture.rows, List.flatMap_cons]

end Writing

section Legibility

/-- Whether the row of a node can be read: its icon is one character, its label breaks no line, and
it has no id if ids are not shown. -/
def IsLegible (showIds : Bool) (id : Option NodeId) (icon label : String) : Prop :=
  (showIds = false → id = none) ∧ IsGlyph icon ∧ '\n' ∉ label.toList

variable (style : Treeviz)

theorem break_notMem_shorten
    (limit : Nat)
    (label : String) :
    '\n' ∉ (shorten limit label).toList := by
  have hflat : '\n' ∉ flatten label.toList := by
    intro hmem
    obtain ⟨c, _, hc⟩ := List.mem_map.mp hmem
    split at hc
    · exact absurd hc (by decide)
    · simp_all
  rw [shorten, String.toList_ofList, cut]
  split
  · exact hflat
  · intro hmem
    rcases List.mem_append.mp hmem with hmem | hmem
    · exact hflat (List.mem_of_mem_take hmem)
    · exact absurd hmem (by decide)

mutual

/-- A drawing with icons of one character is legible as it is seen. -/
theorem legible_seen :
    ∀ d : Drawing, HasGlyphs d → (style.seen d).All (IsLegible style.showIds)
  | .mk id icon label children, h => by
      obtain ⟨hicon, hchildren⟩ := h
      refine ⟨⟨?_, hicon, break_notMem_shorten _ _⟩, legible_seenAll children hchildren⟩
      intro hhidden
      rw [seenId, hhidden]
      rfl

theorem legible_seenAll :
    ∀ ds : List Drawing, HaveGlyphs ds → Drawing.AllIn (IsLegible style.showIds) (style.seenAll ds)
  | [], _ => trivial
  | d :: ds, h => ⟨legible_seen d h.1, legible_seenAll ds h.2⟩

end

/-- Every node in the picture of a tree is legible. -/
theorem legible_picture (root : Tree.Root) :
    Drawing.AllIn (IsLegible style.showIds) (style.picture root).forest :=
  legible_seenAll style _ (haveGlyphs_blocks root.children)

mutual

theorem lines_of_all
    {P : Option NodeId → String → String → Prop} :
    ∀ (d : Drawing) (rails : List Bool) (last : Bool),
      d.All P → ∀ line ∈ lines rails last d, P line.id line.icon line.label
  | .mk id icon label children, rails, last, h, line, hline => by
      rw [lines] at hline
      rcases List.mem_cons.mp hline with rfl | hline
      · exact h.1
      · exact linesAll_of_allIn children _ h.2 line hline

theorem linesAll_of_allIn
    {P : Option NodeId → String → String → Prop} :
    ∀ (ds : List Drawing) (rails : List Bool),
      Drawing.AllIn P ds → ∀ line ∈ linesAll rails ds, P line.id line.icon line.label
  | [], _, _, line, hline => by
      rw [linesAll] at hline
      exact absurd hline List.not_mem_nil
  | d :: ds, rails, h, line, hline => by
      rw [linesAll] at hline
      rcases List.mem_append.mp hline with hline | hline
      · exact lines_of_all d _ _ h.1 line hline
      · exact linesAll_of_allIn ds _ h.2 line hline

end

mutual

theorem length_lines :
    ∀ (d : Drawing) (rails : List Bool) (last : Bool), (lines rails last d).length = d.size
  | .mk id icon label children, rails, last => by
      rw [lines, List.length_cons, length_linesAll children, Drawing.size, Nat.add_comm]

theorem length_linesAll :
    ∀ (ds : List Drawing) (rails : List Bool),
      (linesAll rails ds).length = Drawing.sizeAll ds
  | [], _ => rfl
  | d :: ds, rails => by
      rw [linesAll, List.length_append, length_lines d, length_linesAll ds, Drawing.sizeAll]

end

end Legibility

end Treeviz

end Format
end DocTree
