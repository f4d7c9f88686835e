import DocTree.Proofs.Treeviz.Picture
import DocTree.Text.Split
import Mathlib.Data.List.Basic

/-!
# Reading a tree visualization

The text of a visualization is read back in three steps, and all that has to be known is whether ids
are shown.

**Rows.**  Every row ends in a line break and holds no other (`splitRows_rows`).

**Lines.**  A row starts with its id column: digits and a space, or four spaces.  Then come rails of
two characters each, and the connector tells where they end; the rest has one icon and a label
(`readRow_lineChars`).  The rails give the depth of the node, so nothing in a label can be taken for
one.

**Forest.**  Rows are put together from the last one up.  The trees planted so far stand next to
each other with their depths; a row takes those that lie deeper as its children
(`foldr_plant_linesAll`).
-/

namespace DocTree
namespace Format
namespace Treeviz

open DocTree.Tree (NodeId)

section Rows

/-- The rows of a text, each of which must end in a line break. -/
def splitRows : List Char → Option (List (List Char))
  | [] => some []
  | c :: chars =>
      if c = '\n' then (splitRows chars).map fun rows => [] :: rows
      else
        match splitRows chars with
        | some (row :: rows) => some ((c :: row) :: rows)
        | _ => none

theorem splitRows_row
    {row rest : List Char}
    {rows : List (List Char)}
    (hrow : '\n' ∉ row)
    (hrest : splitRows rest = some rows) :
    splitRows (row ++ '\n' :: rest) = some (row :: rows) := by
  induction row with
  | nil =>
      simp [splitRows, hrest]
  | cons c row ih =>
      rw [List.mem_cons, not_or] at hrow
      have hc : c ≠ '\n' := Ne.symm hrow.1
      have htail := ih hrow.2
      simp only [List.cons_append, splitRows, if_neg hc, htail]

/-- Rows that break no line are read back. -/
theorem splitRows_rows
    {rows : List (List Char)}
    (h : ∀ row ∈ rows, '\n' ∉ row) :
    splitRows (rows.flatMap fun row => row ++ ['\n']) = some rows := by
  induction rows with
  | nil =>
      rfl
  | cons row rows ih =>
      have hrest := ih fun row' hrow' => h row' (List.mem_cons_of_mem _ hrow')
      have hrow := h row List.mem_cons_self
      rw [List.flatMap_cons, List.append_assoc]
      exact splitRows_row hrow hrest

/-- A text has as many line breaks as rows. -/
theorem count_rows
    {rows : List (List Char)}
    (h : ∀ row ∈ rows, '\n' ∉ row) :
    (rows.flatMap fun row => row ++ ['\n']).count '\n' = rows.length := by
  induction rows with
  | nil =>
      rfl
  | cons row rows ih =>
      have hrest := ih fun row' hrow' => h row' (List.mem_cons_of_mem _ hrow')
      have hrow : row.count '\n' = 0 := List.count_eq_zero.mpr (h row List.mem_cons_self)
      rw [List.flatMap_cons, List.count_append, List.count_append, hrow, hrest]
      simp
      omega

theorem getLast?_rows
    (row : List Char)
    (rows : List (List Char)) :
    ((row :: rows).flatMap fun row => row ++ ['\n']).getLast? = some '\n' := by
  induction rows generalizing row with
  | nil =>
      simp
  | cons row' rows ih =>
      have hrest := ih row'
      rw [List.flatMap_cons, List.getLast?_append, hrest]
      rfl

theorem break_notMem_toDigits (n : Nat) :
    '\n' ∉ Nat.toDigits 10 n := by
  intro hmem
  have hdigit := Nat.isDigit_of_mem_toDigits (by decide) (by decide) hmem
  exact absurd hdigit (by decide)

end Rows

section Columns

/-- Read the id column: nothing if ids are not shown, and else four spaces, or digits and a
space. -/
def readId (showIds : Bool) (chars : List Char) : Option (Option NodeId × List Char) :=
  if showIds then
    match Text.after? "    ".toList chars with
    | some rest => some (none, rest)
    | none =>
        (Text.after? [' '] (chars.dropWhile Char.isDigit)).map fun rest =>
          (some ⟨Text.ofDigits (chars.takeWhile Char.isDigit)⟩, rest)
  else some (none, chars)

/-- Count and skip the rails. -/
def readRails : List Char → Nat × List Char
  | '│' :: ' ' :: rest => ((readRails rest).1 + 1, (readRails rest).2)
  | ' ' :: ' ' :: rest => ((readRails rest).1 + 1, (readRails rest).2)
  | rest => (0, rest)

/-- Read the connector, the icon and the label. -/
def readNode : List Char → Option (String × String)
  | '├' :: '─' :: ' ' :: glyph :: ' ' :: label => some (String.ofList [glyph], String.ofList label)
  | '└' :: '─' :: ' ' :: glyph :: ' ' :: label => some (String.ofList [glyph], String.ofList label)
  | _ => none

/-- Digits with zeros before them denote the number. -/
theorem ofDigits_leftpad (width n : Nat) :
    Text.ofDigits (List.leftpad width '0' (Nat.toDigits 10 n)) = n := by
  have hzeros : Text.ofDigits (List.leftpad width '0' (Nat.toDigits 10 n)) =
      Nat.ofDigitChars 10 (List.leftpad width '0' (Nat.toDigits 10 n)) 0 := by
    rfl
  rw [hzeros, List.leftpad, Nat.ofDigitChars_append, Nat.ofDigitChars_replicate_zero,
    Nat.mul_zero, Nat.ofDigitChars_ten_toDigits]

theorem isDigit_of_mem_leftpad
    {width n : Nat}
    {c : Char}
    (h : c ∈ List.leftpad width '0' (Nat.toDigits 10 n)) :
    c.isDigit = true := by
  rw [List.leftpad] at h
  rcases List.mem_append.mp h with hzero | hdigit
  · rw [(List.mem_replicate.mp hzero).2]
    decide
  · exact Nat.isDigit_of_mem_toDigits (by decide) (by decide) hdigit

theorem leftpad_ne_nil (width n : Nat) :
    List.leftpad width '0' (Nat.toDigits 10 n) ≠ [] := by
  rw [List.leftpad]
  exact List.append_ne_nil_of_right_ne_nil _ Nat.toDigits_ne_nil

theorem idChars_some (id : NodeId) :
    idChars true (some id) = List.leftpad 3 '0' (Nat.toDigits 10 id.index) ++ [' '] := by
  simp [idChars, idColumn, Text.padded]

/-- The id column is read back, if ids that are not shown are absent. -/
theorem readId_idChars
    {showIds : Bool}
    {id : Option NodeId}
    (hid : showIds = false → id = none)
    (rest : List Char) :
    readId showIds (idChars showIds id ++ rest) = some (id, rest) := by
  cases showIds with
  | false =>
      rw [hid rfl]
      rfl
  | true =>
      cases id with
      | none =>
          have hblank : Text.after? "    ".toList (idChars true none ++ rest) = some rest :=
            (Text.after?_eq_some_iff _ _ _).mpr rfl
          simp only [readId, if_true, hblank]
      | some id =>
          have hdigits : ∀ c ∈ List.leftpad 3 '0' (Nat.toDigits 10 id.index), c.isDigit = true :=
            fun c hc => isDigit_of_mem_leftpad hc
          have hchars : idChars true (some id) ++ rest =
              List.leftpad 3 '0' (Nat.toDigits 10 id.index) ++ ' ' :: rest := by
            rw [idChars_some, List.append_assoc]
            rfl
          have hblank : Text.after? "    ".toList (idChars true (some id) ++ rest) = none := by
            -- The column starts with a digit, which is no space.
            obtain ⟨c, digits, hcons⟩ := List.exists_cons_of_ne_nil (leftpad_ne_nil 3 id.index)
            have hdigit : c.isDigit = true := hdigits c (hcons ▸ List.mem_cons_self)
            have hspace : ' ' ≠ c := by
              rintro rfl
              exact absurd hdigit (by decide)
            rw [hchars, hcons]
            exact if_neg hspace
          have htake : (idChars true (some id) ++ rest).takeWhile Char.isDigit =
              List.leftpad 3 '0' (Nat.toDigits 10 id.index) := by
            rw [hchars, List.takeWhile_append_of_pos hdigits]
            simp
          have hdrop : (idChars true (some id) ++ rest).dropWhile Char.isDigit = ' ' :: rest := by
            rw [hchars, List.dropWhile_append_of_pos hdigits]
            simp
          simp only [readId, if_true, hblank, htake, hdrop, ofDigits_leftpad]
          rfl

theorem readRails_rail
    (runsOn : Bool)
    (rest : List Char) :
    readRails ((rail runsOn).toList ++ rest) =
      ((readRails rest).1 + 1, (readRails rest).2) := by
  cases runsOn <;> rfl

/-- The rails are counted up to the connector. -/
theorem readRails_rails
    (rails : List Bool)
    (last : Bool)
    (rest : List Char) :
    readRails (rails.flatMap (fun runsOn => (rail runsOn).toList) ++
        ((connector last).toList ++ rest)) =
      (rails.length, (connector last).toList ++ rest) := by
  induction rails with
  | nil =>
      cases last <;> simp [connector, readRails]
  | cons runsOn rails ih =>
      rw [List.flatMap_cons, List.append_assoc, readRails_rail, ih]
      rfl

theorem readNode_node
    {icon : String}
    (hicon : IsGlyph icon)
    (last : Bool)
    (label : String) :
    readNode ((connector last).toList ++ ' ' :: (icon.toList ++ ' ' :: label.toList)) =
      some (icon, label) := by
  obtain ⟨c, hc, _⟩ := hicon
  have hicon : icon = String.ofList [c] := by
    rw [← hc, String.ofList_toList]
  cases last <;> simp [connector, readNode, hicon]

end Columns

section Forests

/-- What a row says of a node. -/
structure Row where
  depth : Nat
  id : Option NodeId
  icon : String
  label : String

def rowOf (line : Line) : Row :=
  ⟨line.rails.length, line.id, line.icon, line.label⟩

def readRow (showIds : Bool) (chars : List Char) : Option Row :=
  match readId showIds chars with
  | none => none
  | some (id, rest) =>
      (readNode (readRails rest).2).map fun node => ⟨(readRails rest).1, id, node.1, node.2⟩

theorem readRow_lineChars
    {showIds : Bool}
    {line : Line}
    (h : IsLegible showIds line.id line.icon line.label) :
    readRow showIds (lineChars showIds line) = some (rowOf line) := by
  obtain ⟨hid, hicon, _⟩ := h
  rw [readRow, lineChars, readId_idChars hid]
  simp only [readRails_rails, readNode_node hicon]
  rfl

/-- Put a row before the trees of the rows behind it, each tree with its depth.  The trees that lie
deeper are its children. -/
def plant (row : Row) (trees : List (Nat × Drawing)) : List (Nat × Drawing) :=
  (row.depth,
      .mk row.id row.icon row.label
        ((trees.takeWhile fun tree => row.depth < tree.1).map Prod.snd)) ::
    trees.dropWhile fun tree => row.depth < tree.1

/-- Trees of a depth before trees that lie no deeper are the children of a row one level above. -/
theorem plant_children
    {row : Row}
    {trees : List (Nat × Drawing)}
    (children : List Drawing)
    (htrees : ∀ tree ∈ trees.head?, tree.1 ≤ row.depth) :
    plant row (children.map (fun d => (row.depth + 1, d)) ++ trees) =
      (row.depth, .mk row.id row.icon row.label children) :: trees := by
  have hdeeper : ∀ tree ∈ children.map (fun d => (row.depth + 1, d)),
      decide (row.depth < tree.1) = true := by
    intro tree htree
    obtain ⟨d, _, rfl⟩ := List.mem_map.mp htree
    simp
  have hstop : trees.takeWhile (fun tree => row.depth < tree.1) = [] ∧
      trees.dropWhile (fun tree => row.depth < tree.1) = trees := by
    cases trees with
    | nil =>
        exact ⟨rfl, rfl⟩
    | cons tree trees =>
        have hdepth := htrees tree rfl
        constructor <;> simp [hdepth]
  have hchildren : (children.map fun d => (row.depth + 1, d)).map Prod.snd = children := by
    simp [Function.comp_def]
  rw [plant, List.takeWhile_append_of_pos hdeeper, List.dropWhile_append_of_pos hdeeper,
    hstop.1, hstop.2, List.append_nil, hchildren]

mutual

/-- The rows of a drawing plant the drawing before the trees behind it. -/
theorem foldr_plant_lines :
    ∀ (d : Drawing) (rails : List Bool) (last : Bool) (trees : List (Nat × Drawing)),
      (∀ tree ∈ trees.head?, tree.1 ≤ rails.length) →
        ((lines rails last d).map rowOf).foldr plant trees = (rails.length, d) :: trees
  | .mk id icon label children, rails, last, trees, htrees => by
      have hdeeper : ∀ tree ∈ trees.head?, tree.1 ≤ (rails ++ [!last]).length := by
        intro tree htree
        have hdepth := htrees tree htree
        rw [List.length_append]
        omega
      have hchildren := foldr_plant_linesAll children (rails ++ [!last]) trees hdeeper
      rw [List.length_append] at hchildren
      rw [lines, List.map_cons, List.foldr_cons, hchildren]
      exact plant_children children htrees

/-- The rows of a forest plant its drawings, all of them at the same depth. -/
theorem foldr_plant_linesAll :
    ∀ (ds : List Drawing) (rails : List Bool) (trees : List (Nat × Drawing)),
      (∀ tree ∈ trees.head?, tree.1 ≤ rails.length) →
        ((linesAll rails ds).map rowOf).foldr plant trees =
          ds.map (fun d => (rails.length, d)) ++ trees
  | [], _, _, _ => rfl
  | d :: ds, rails, trees, htrees => by
      have hrest := foldr_plant_linesAll ds rails trees htrees
      have hhead : ∀ tree ∈ (ds.map (fun d => (rails.length, d)) ++ trees).head?,
          tree.1 ≤ rails.length := by
        intro tree htree
        cases ds with
        | nil =>
            exact htrees tree htree
        | cons d' ds =>
            obtain rfl : (rails.length, d') = tree := by simpa using htree
            exact Nat.le_refl _
      -- The drawings behind the first one stand at its depth, so none of them becomes its child.
      have hfirst := foldr_plant_lines d rails ds.isEmpty _ hhead
      rw [linesAll, List.map_append, List.foldr_append, hrest, hfirst]
      rfl

end

end Forests

section Texts

/-- Read the first row up to its line break: the id of the root and the number of root blocks. -/
def readTop (showIds : Bool) (chars : List Char) : Option (Option NodeId × Nat) :=
  match readId showIds chars with
  | none => none
  | some (id, rest) =>
      (Text.after? "⧉ Root (".toList rest).map fun rest =>
        (id, Text.ofDigits (rest.takeWhile Char.isDigit))

/-- Read the rows below the first one. -/
def readRows (showIds : Bool) : List (List Char) → Option (List Row)
  | [] => some []
  | chars :: rows =>
      match readRow showIds chars, readRows showIds rows with
      | some row, some rows => some (row :: rows)
      | _, _ => none

/-- Read the text of a visualization. -/
def read (showIds : Bool) (text : String) : Option Picture :=
  match splitRows text.toList with
  | some (top :: rows) =>
      match readTop showIds top, readRows showIds rows with
      | some (id, blocks), some rows => some ⟨id, blocks, (rows.foldr plant []).map Prod.snd⟩
      | _, _ => none
  | _ => none

theorem readTop_topChars
    {showIds : Bool}
    {picture : Picture}
    (hid : showIds = false → picture.id = none) :
    readTop showIds (topChars showIds picture) = some (picture.id, picture.blocks) := by
  have hdigits : ∀ c ∈ Nat.toDigits 10 picture.blocks, c.isDigit = true :=
    fun c hc => Nat.isDigit_of_mem_toDigits (by decide) (by decide) hc
  have hstart : ∀ rest : List Char,
      Text.after? "⧉ Root (".toList ("⧉ Root (".toList ++ rest) = some rest :=
    fun rest => (Text.after?_eq_some_iff _ _ _).mpr rfl
  have hblocks : Text.ofDigits (Nat.toDigits 10 picture.blocks) = picture.blocks :=
    Nat.ofDigitChars_ten_toDigits
  have hend : " blocks)".toList.takeWhile Char.isDigit = [] := by decide
  rw [readTop, topChars, readId_idChars hid]
  simp only [hstart, Option.map_some]
  rw [List.takeWhile_append_of_pos hdigits, hend, List.append_nil, hblocks]

theorem readRows_lines
    {showIds : Bool}
    {ls : List Line}
    (h : ∀ line ∈ ls, IsLegible showIds line.id line.icon line.label) :
    readRows showIds (ls.map (lineChars showIds)) = some (ls.map rowOf) := by
  induction ls with
  | nil =>
      rfl
  | cons line ls ih =>
      have hrest := ih fun line' hline' => h line' (List.mem_cons_of_mem _ hline')
      have hfirst := readRow_lineChars (h line List.mem_cons_self)
      simp only [List.map_cons, readRows, hfirst, hrest]

variable (style : Treeviz) (root : Tree.Root)

theorem legible_lines :
    ∀ line ∈ linesAll [] (style.picture root).forest,
      IsLegible style.showIds line.id line.icon line.label :=
  linesAll_of_allIn _ [] (legible_picture style root)

theorem picture_id_of_hidden
    (h : style.showIds = false) :
    (style.picture root).id = none := by
  rw [picture, seenId, h]
  rfl

theorem break_notMem_idChars
    (showIds : Bool)
    (id : Option NodeId) :
    '\n' ∉ idChars showIds id := by
  intro hmem
  cases showIds with
  | false =>
      cases id <;> exact absurd hmem List.not_mem_nil
  | true =>
      cases id with
      | none =>
          exact absurd hmem (by decide)
      | some id =>
          rw [idChars_some] at hmem
          rcases List.mem_append.mp hmem with hdigit | hspace
          · exact absurd (isDigit_of_mem_leftpad hdigit) (by decide)
          · exact absurd hspace (by decide)

theorem break_notMem_lineChars
    {showIds : Bool}
    {line : Line}
    (h : IsLegible showIds line.id line.icon line.label) :
    '\n' ∉ lineChars showIds line := by
  obtain ⟨_, ⟨c, hc, hbreak⟩, hlabel⟩ := h
  have hid := break_notMem_idChars showIds line.id
  have hrails : '\n' ∉ line.rails.flatMap fun runsOn => (rail runsOn).toList := by
    intro hmem
    obtain ⟨runsOn, _, hrail⟩ := List.mem_flatMap.mp hmem
    cases runsOn <;> exact absurd hrail (by decide)
  have hconnector : '\n' ∉ (connector line.last).toList := by
    cases line.last <;> decide
  simp [lineChars, hc, hid, hrails, hconnector, hlabel, Ne.symm hbreak]

theorem break_notMem_topChars
    (showIds : Bool)
    (picture : Picture) :
    '\n' ∉ topChars showIds picture := by
  have hid := break_notMem_idChars showIds picture.id
  have hdigits := break_notMem_toDigits picture.blocks
  simp [topChars, hid, hdigits]

theorem break_notMem_rows :
    ∀ row ∈ (style.picture root).rows style.showIds, '\n' ∉ row := by
  intro row hrow
  rcases List.mem_cons.mp hrow with rfl | hrow
  · exact break_notMem_topChars _ _
  · obtain ⟨line, hline, rfl⟩ := List.mem_map.mp hrow
    exact break_notMem_lineChars (legible_lines style root line hline)

theorem read_text :
    read style.showIds (style.text root) = some (style.picture root) := by
  have hrows := splitRows_rows (break_notMem_rows style root)
  have htop := readTop_topChars (picture_id_of_hidden style root)
  have hlines := readRows_lines (legible_lines style root)
  have hforest := foldr_plant_linesAll (style.picture root).forest [] [] (by simp)
  rw [read, toList_text, hrows]
  simp only [Picture.rows, htop, hlines, hforest]
  simp [Function.comp_def]

/-- Two trees have the same text exactly if they have the same picture. -/
theorem text_eq_iff (root' : Tree.Root) :
    style.text root = style.text root' ↔ style.picture root = style.picture root' := by
  constructor
  · intro h
    have hread := read_text style root
    rw [h, read_text style root', Option.some.injEq] at hread
    exact hread.symm
  · intro h
    rw [← String.toList_inj, toList_text, toList_text, h]

/-- There is a row for the root and one for each drawn node. -/
theorem length_rows :
    ((style.picture root).rows style.showIds).length =
      1 + Drawing.sizeAll (Drawing.ofBlocks root.children) := by
  rw [Picture.rows, List.length_cons, List.length_map, picture, linesAll_seenAll,
    List.length_map, length_linesAll, Nat.add_comm]

end Texts

/-- **Reading.**  One reader, which knows only whether ids are shown, recovers from the text of a
visualization what is seen of the tree.  Each drawn node and the root have one line that ends in a
line break, whatever stands in the texts of the tree.  Under the same parameters two trees have the
same text exactly if the same is seen of them. -/
theorem read_treeviz (params : Params) (root : Tree.Root) :
    read (params.flag "show-ids" false) (treeviz params root) =
        some ((ofParams params).picture root) ∧
      (treeviz params root).toList.count '\n' =
        1 + Drawing.sizeAll (Drawing.ofBlocks root.children) ∧
      (treeviz params root).toList.getLast? = some '\n' ∧
      ∀ root' : Tree.Root,
        treeviz params root = treeviz params root' ↔
          (ofParams params).picture root = (ofParams params).picture root' := by
  refine ⟨read_text _ root, ?_, ?_, fun root' => text_eq_iff _ root root'⟩
  · rw [treeviz, toList_text, count_rows (break_notMem_rows _ root), length_rows]
  · rw [treeviz, toList_text, Picture.rows]
    exact getLast?_rows _ _

-- A label may look like the rails of a row, and the row of a table has a blank id column.
example :
    read true "000 ⧉ Root (1 blocks)\n1002 └─ ▦ │ └─ 7\n      └─ ▭ \n" =
      some ⟨some ⟨0⟩, 1, [.mk (some ⟨1002⟩) "▦" "│ └─ 7" [.mk none "▭" "" []]]⟩ := by
  rfl

end Treeviz
end Format
end DocTree
