import DocTree.Proofs.Treeviz.Reading
import Mathlib.Data.List.Chain

/-!
# The rails of a visualization

The writer knows the rails of a line from above: they are those of its parent, and one more that
runs on unless the parent is the last one under its own.  A reader sees the rails from the other
side.  A rail or a connector that runs on must lead to a line further below, and one that ends must
not.

**Levels.**  `Continues later level` says that among the depths of the lines below there is the
level, and no smaller depth before it.  The rails of a line and its connector run on exactly at the
levels that continue (`Laid`).

**Lines.**  Rails that are laid for the lines behind a forest are laid for those inside of it as
well, because everything in the forest lies deeper (`laid_linesAll`).  A line gets one rail more
than its parent, so depths grow by one at most (`isChain_linesAll`).
-/

namespace DocTree
namespace Format
namespace Treeviz

section Levels

/-- Whether a level is met among depths before any smaller depth. -/
def Continues (later : List Nat) (level : Nat) : Prop :=
  ∃ between rest, later = between ++ level :: rest ∧ ∀ depth ∈ between, level ≤ depth

/-- Whether the first depth that is not beyond a level is the level itself. -/
def runsOn (later : List Nat) (level : Nat) : Bool :=
  later.find? (· ≤ level) == some level

theorem runsOn_cons
    (depth : Nat)
    (later : List Nat)
    (level : Nat) :
    runsOn (depth :: later) level =
      if depth ≤ level then depth == level else runsOn later level := by
  rw [runsOn, List.find?_cons]
  by_cases h : depth ≤ level <;> simp [h, runsOn]

theorem runsOn_iff
    {later : List Nat}
    {level : Nat} :
    runsOn later level = true ↔ Continues later level := by
  induction later with
  | nil =>
      simp [runsOn, Continues]
  | cons depth later ih =>
      rw [runsOn_cons]
      constructor
      · intro h
        split at h
        case isTrue hdepth =>
          have heq : depth = level := by simpa using h
          exact ⟨[], later, by rw [heq]; rfl, by simp⟩
        case isFalse hdepth =>
          obtain ⟨between, rest, hlater, hbetween⟩ := ih.mp h
          refine ⟨depth :: between, rest, by rw [hlater]; rfl, ?_⟩
          intro depth' hdepth'
          rcases List.mem_cons.mp hdepth' with rfl | hmem
          · omega
          · exact hbetween depth' hmem
      · rintro ⟨between, rest, hlater, hbetween⟩
        cases between with
        | nil =>
            obtain ⟨rfl, rfl⟩ := List.cons.inj hlater
            simp
        | cons depth' between =>
            obtain ⟨rfl, rfl⟩ := List.cons.inj hlater
            have hdepth := hbetween depth List.mem_cons_self
            have hrest := ih.mpr ⟨between, rest, rfl, fun depth' hdepth' =>
              hbetween depth' (List.mem_cons_of_mem _ hdepth')⟩
            split
            case isTrue hle =>
              simp
              omega
            case isFalse =>
              exact hrest

instance (later : List Nat) (level : Nat) : Decidable (Continues later level) :=
  decidable_of_iff _ runsOn_iff

/-- Depths beyond a level do not decide about it. -/
theorem runsOn_append
    {front : List Nat}
    {level : Nat}
    (h : ∀ depth ∈ front, level < depth)
    (later : List Nat) :
    runsOn (front ++ later) level = runsOn later level := by
  induction front with
  | nil =>
      rfl
  | cons depth front ih =>
      have hdepth := h depth List.mem_cons_self
      have hrest := ih fun depth' hdepth' => h depth' (List.mem_cons_of_mem _ hdepth')
      rw [List.cons_append, runsOn_cons, if_neg (by omega), hrest]

/-- A level ends where the lines go on above it. -/
theorem runsOn_of_head?_lt
    {later : List Nat}
    {level : Nat}
    (h : ∀ depth ∈ later.head?, depth < level) :
    runsOn later level = false := by
  cases later with
  | nil =>
      rfl
  | cons depth later =>
      have hdepth := h depth rfl
      rw [runsOn_cons, if_pos (by omega)]
      simp
      omega

end Levels

section Laying

/-- Whether rails run on at the levels that continue. -/
def Laid (later : List Nat) (rails : List Bool) : Prop :=
  rails = (List.range rails.length).map (runsOn later)

theorem laid_append_singleton
    {later : List Nat}
    {rails : List Bool}
    {runs : Bool} :
    Laid later (rails ++ [runs]) ↔ Laid later rails ∧ runs = runsOn later rails.length := by
  rw [Laid, Laid, List.length_append, List.length_singleton, List.range_succ, List.map_append,
    List.map_singleton]
  constructor
  · intro h
    obtain ⟨hrails, hruns⟩ := List.append_inj h (by simp)
    exact ⟨hrails, List.singleton_inj.mp hruns⟩
  · rintro ⟨hrails, hruns⟩
    rw [← hrails, hruns]

/-- Rails are laid for deeper lines in front as they are laid for the lines behind those. -/
theorem Laid.behind
    {front later : List Nat}
    {rails : List Bool}
    (h : Laid later rails)
    (hfront : ∀ depth ∈ front, rails.length ≤ depth) :
    Laid (front ++ later) rails := by
  rw [Laid] at h ⊢
  conv_lhs => rw [h]
  apply List.map_congr_left
  intro level hlevel
  have hless := List.mem_range.mp hlevel
  exact (runsOn_append (fun depth hdepth => lt_of_lt_of_le hless (hfront depth hdepth)) later).symm

def lineDepth (line : Line) : Nat :=
  line.rails.length

/-- Whether the rails and the connector of each line are laid for the lines behind it, and for
later ones of given depths. -/
def AllLaid : List Line → List Nat → Prop
  | [], _ => True
  | line :: ls, later =>
      Laid (ls.map lineDepth ++ later) (line.rails ++ [!line.last]) ∧ AllLaid ls later

theorem allLaid_append
    {ls ls' : List Line}
    {later : List Nat}
    (h : AllLaid ls (ls'.map lineDepth ++ later))
    (h' : AllLaid ls' later) :
    AllLaid (ls ++ ls') later := by
  induction ls with
  | nil =>
      exact h'
  | cons line ls ih =>
      have hfirst := h.1
      rw [← List.append_assoc, ← List.map_append] at hfirst
      exact ⟨hfirst, ih h.2⟩

theorem laid_of_allLaid
    {ls front behind : List Line}
    {line : Line}
    (h : AllLaid ls [])
    (hsplit : ls = front ++ line :: behind) :
    Laid (behind.map lineDepth) (line.rails ++ [!line.last]) := by
  induction front generalizing ls with
  | nil =>
      obtain rfl : ls = line :: behind := hsplit
      simpa using h.1
  | cons line' front ih =>
      obtain rfl : ls = line' :: (front ++ line :: behind) := hsplit
      exact ih h.2 rfl

end Laying

section Depths

mutual

/-- The depths of the nodes of a drawing, in the order of their lines. -/
def depths (level : Nat) : Drawing → List Nat
  | .mk _ _ _ children => level :: depthsAll (level + 1) children

def depthsAll (level : Nat) : List Drawing → List Nat
  | [] => []
  | d :: ds => depths level d ++ depthsAll level ds

end

theorem depthsAll_cons
    (level : Nat)
    (d : Drawing)
    (ds : List Drawing) :
    ∃ deeper, depthsAll level (d :: ds) = level :: deeper := by
  cases d with
  | mk id icon label children =>
      rw [depthsAll, depths]
      exact ⟨_, rfl⟩

mutual

theorem le_of_mem_depths :
    ∀ (d : Drawing) (level : Nat), ∀ depth ∈ depths level d, level ≤ depth
  | .mk id icon label children, level, depth, hdepth => by
      rw [depths] at hdepth
      rcases List.mem_cons.mp hdepth with rfl | hmem
      · exact Nat.le_refl _
      · have hbelow := le_of_mem_depthsAll children (level + 1) depth hmem
        omega

theorem le_of_mem_depthsAll :
    ∀ (ds : List Drawing) (level : Nat), ∀ depth ∈ depthsAll level ds, level ≤ depth
  | [], _, depth, hdepth => by
      rw [depthsAll] at hdepth
      exact absurd hdepth List.not_mem_nil
  | d :: ds, level, depth, hdepth => by
      rw [depthsAll] at hdepth
      rcases List.mem_append.mp hdepth with hmem | hmem
      · exact le_of_mem_depths d level depth hmem
      · exact le_of_mem_depthsAll ds level depth hmem

end

mutual

/-- Behind a node there is none that lies more than one level deeper. -/
theorem isChain_depths :
    ∀ (d : Drawing) (level : Nat),
      (depths level d).IsChain fun depth next => next ≤ depth + 1
  | .mk id icon label children, level => by
      have hbelow := isChain_depthsAll children (level + 1)
      rw [depths, List.isChain_cons]
      refine ⟨?_, hbelow⟩
      intro depth hdepth
      cases children with
      | nil =>
          rw [depthsAll] at hdepth
          contradiction
      | cons d ds =>
          obtain ⟨deeper, hdeeper⟩ := depthsAll_cons (level + 1) d ds
          rw [hdeeper] at hdepth
          exact Nat.le_of_eq (Option.some.inj hdepth).symm

theorem isChain_depthsAll :
    ∀ (ds : List Drawing) (level : Nat),
      (depthsAll level ds).IsChain fun depth next => next ≤ depth + 1
  | [], _ => List.isChain_nil
  | d :: ds, level => by
      rw [depthsAll, List.isChain_append]
      refine ⟨isChain_depths d level, isChain_depthsAll ds level, ?_⟩
      intro depth hdepth next hnext
      have hdeep := le_of_mem_depths d level depth (List.mem_of_mem_getLast? hdepth)
      cases ds with
      | nil =>
          rw [depthsAll] at hnext
          contradiction
      | cons d' ds =>
          obtain ⟨deeper, hdeeper⟩ := depthsAll_cons level d' ds
          rw [hdeeper] at hnext
          have hlevel := Option.some.inj hnext
          omega

end

mutual

theorem lineDepth_lines :
    ∀ (d : Drawing) (rails : List Bool) (last : Bool),
      (lines rails last d).map lineDepth = depths rails.length d
  | .mk id icon label children, rails, last => by
      have hbelow := lineDepth_linesAll children (rails ++ [!last])
      rw [List.length_append, List.length_singleton] at hbelow
      rw [lines, List.map_cons, hbelow, depths]
      rfl

/-- The rails of a line tell the depth of its node. -/
theorem lineDepth_linesAll :
    ∀ (ds : List Drawing) (rails : List Bool),
      (linesAll rails ds).map lineDepth = depthsAll rails.length ds
  | [], _ => rfl
  | d :: ds, rails => by
      rw [linesAll, List.map_append, lineDepth_lines d, lineDepth_linesAll ds, depthsAll]

end

mutual

theorem depths_seen (style : Treeviz) :
    ∀ (d : Drawing) (level : Nat), depths level (style.seen d) = depths level d
  | .mk id icon label children, level => by
      rw [seen, depths, depths, depthsAll_seenAll style children]

theorem depthsAll_seenAll (style : Treeviz) :
    ∀ (ds : List Drawing) (level : Nat), depthsAll level (style.seenAll ds) = depthsAll level ds
  | [], _ => rfl
  | d :: ds, level => by
      rw [seenAll, depthsAll, depthsAll, depths_seen style d, depthsAll_seenAll style ds]

end

end Depths

section Lines

mutual

/-- A drawing is laid if its rails and its connector are, and the lines behind lie no deeper. -/
theorem laid_lines :
    ∀ (d : Drawing) (rails : List Bool) (last : Bool) (later : List Nat),
      Laid later (rails ++ [!last]) →
      (∀ depth ∈ later.head?, depth ≤ rails.length) →
        AllLaid (lines rails last d) later
  | .mk id icon label children, rails, last, later, hlaid, hlater => by
      have hdeeper := hlaid.behind (le_of_mem_depthsAll children (rails ++ [!last]).length)
      rw [← lineDepth_linesAll] at hdeeper
      have hbelow : ∀ depth ∈ later.head?, depth < (rails ++ [!last]).length := by
        intro depth hdepth
        have hle := hlater depth hdepth
        rw [List.length_append]
        exact Nat.lt_succ_of_le hle
      rw [lines]
      exact ⟨hdeeper, laid_linesAll children (rails ++ [!last]) later hlaid hbelow⟩

/-- A forest is laid if its rails are, and the lines behind lie less deep. -/
theorem laid_linesAll :
    ∀ (ds : List Drawing) (rails : List Bool) (later : List Nat),
      Laid later rails →
      (∀ depth ∈ later.head?, depth < rails.length) →
        AllLaid (linesAll rails ds) later
  | [], _, _, _, _ => trivial
  | d :: ds, rails, later, hlaid, hlater => by
      have hrails := hlaid.behind (le_of_mem_depthsAll ds rails.length)
      -- The connector runs on if there is a drawing behind, which starts at this level.
      obtain ⟨hconnector, hhead⟩ : (!ds.isEmpty) =
            runsOn (depthsAll rails.length ds ++ later) rails.length ∧
          ∀ depth ∈ (depthsAll rails.length ds ++ later).head?, depth ≤ rails.length := by
        cases ds with
        | nil =>
            exact ⟨(runsOn_of_head?_lt hlater).symm,
              fun depth hdepth => Nat.le_of_lt (hlater depth hdepth)⟩
        | cons d' ds =>
            obtain ⟨deeper, hdeeper⟩ := depthsAll_cons rails.length d' ds
            rw [hdeeper, List.cons_append, runsOn_cons, if_pos (Nat.le_refl _)]
            refine ⟨by simp, ?_⟩
            intro depth hdepth
            exact Nat.le_of_eq (Option.some.inj hdepth).symm
      have hfirst := laid_lines d rails ds.isEmpty _
        (laid_append_singleton.mpr ⟨hrails, hconnector⟩) hhead
      rw [← lineDepth_linesAll] at hfirst
      rw [linesAll]
      exact allLaid_append hfirst (laid_linesAll ds rails later hlaid hlater)

end

end Lines

section Rows

variable (showIds : Bool)

/-- A row behind its id column. -/
def behindId (row : List Char) : List Char :=
  ((readId showIds row).map Prod.snd).getD []

/-- The number of units of two characters before the connector of a row. -/
def rowDepth (row : List Char) : Nat :=
  (readRails (behindId showIds row)).1

/-- The two characters of a row in a column behind the id column. -/
def unitAt (row : List Char) (column : Nat) : List Char :=
  ((behindId showIds row).drop (2 * column)).take 2

theorem length_rail (runs : Bool) :
    (rail runs).toList.length = 2 := by
  cases runs <;> rfl

/-- Units of two characters are found by their numbers. -/
theorem take_drop_rails
    (rails : List Bool)
    (rest : List Char)
    (column : Nat) :
    ((rails.flatMap (fun runs => (rail runs).toList) ++ rest).drop (2 * column)).take 2 =
      match rails[column]? with
      | some runs => (rail runs).toList
      | none => (rest.drop (2 * (column - rails.length))).take 2 := by
  induction rails generalizing column with
  | nil =>
      simp
  | cons runs rails ih =>
      have hlength := length_rail runs
      rw [List.flatMap_cons, List.append_assoc]
      cases column with
      | zero =>
          rw [Nat.mul_zero, List.drop_zero, List.take_append_of_le_length (by omega),
            List.take_of_length_le (by omega)]
          rfl
      | succ column =>
          have hdrop : 2 * (column + 1) = (rail runs).toList.length + 2 * column := by omega
          rw [hdrop, ← List.drop_drop, List.drop_left, ih column, List.getElem?_cons_succ,
            List.length_cons, Nat.add_sub_add_right]

variable {showIds}

theorem behindId_lineChars
    {line : Line}
    (h : IsLegible showIds line.id line.icon line.label) :
    behindId showIds (lineChars showIds line) =
      line.rails.flatMap (fun runs => (rail runs).toList) ++
        ((connector line.last).toList ++ ' ' :: (line.icon.toList ++ ' ' :: line.label.toList)) := by
  rw [behindId, lineChars, readId_idChars h.1]
  rfl

theorem rowDepth_lineChars
    {line : Line}
    (h : IsLegible showIds line.id line.icon line.label) :
    rowDepth showIds (lineChars showIds line) = lineDepth line := by
  rw [rowDepth, behindId_lineChars h, readRails_rails]
  rfl

/-- Whether a row is drawn as the depths of the rows behind it ask. -/
structure Upheld (showIds : Bool) (row : List Char) (behind : List (List Char)) : Prop where
  connector : unitAt showIds row (rowDepth showIds row) =
    if Continues (behind.map (rowDepth showIds)) (rowDepth showIds row) then "├─".toList
    else "└─".toList
  rails : ∀ column < rowDepth showIds row,
    unitAt showIds row column =
      if Continues (behind.map (rowDepth showIds)) column then "│ ".toList else "  ".toList

theorem rail_runsOn
    (later : List Nat)
    (level : Nat) :
    (rail (runsOn later level)).toList =
      if Continues later level then "│ ".toList else "  ".toList := by
  rw [rail]
  simp only [runsOn_iff]
  split <;> rfl

theorem connector_runsOn
    {later : List Nat}
    {level : Nat}
    {last : Bool}
    (h : (!last) = runsOn later level) :
    (connector last).toList = if Continues later level then "├─".toList else "└─".toList := by
  rw [connector]
  simp only [← runsOn_iff, ← h]
  cases last <;> rfl

/-- A line that is laid for the lines behind it makes a row that is upheld by their rows. -/
theorem upheld_lineChars
    {line : Line}
    {ls : List Line}
    (h : IsLegible showIds line.id line.icon line.label)
    (hls : ∀ line ∈ ls, IsLegible showIds line.id line.icon line.label)
    (hlaid : Laid (ls.map lineDepth) (line.rails ++ [!line.last])) :
    Upheld showIds (lineChars showIds line) (ls.map (lineChars showIds)) := by
  obtain ⟨hrails, hlast⟩ := laid_append_singleton.mp hlaid
  have hdepths : (ls.map (lineChars showIds)).map (rowDepth showIds) = ls.map lineDepth := by
    rw [List.map_map]
    exact List.map_congr_left fun line' hline' => rowDepth_lineChars (hls line' hline')
  constructor
  · rw [hdepths, rowDepth_lineChars h, lineDepth, ← connector_runsOn hlast, unitAt,
      behindId_lineChars h, take_drop_rails, List.getElem?_eq_none (Nat.le_refl _)]
    cases line.last <;> simp [Treeviz.connector]
  · intro column hcolumn
    rw [rowDepth_lineChars h, lineDepth] at hcolumn
    have hrail : line.rails[column]? = some (runsOn (ls.map lineDepth) column) := by
      rw [hrails, List.getElem?_map, List.getElem?_range hcolumn]
      rfl
    rw [hdepths, ← rail_runsOn, unitAt, behindId_lineChars h, take_drop_rails, hrail]

end Rows

/-- **Rails.**  In the text of a visualization the connector of a row runs on exactly if a row of
the same depth follows before any of smaller depth, and so does each rail for the level of its
column.  The depth of a row is the depth of its node, and grows by one at most. -/
theorem rails_never_dangle (params : Params) (root : Tree.Root) :
    let showIds := params.flag "show-ids" false
    ∃ top rows,
      splitRows (treeviz params root).toList = some (top :: rows) ∧
      rows.map (rowDepth showIds) = depthsAll 0 (Drawing.ofBlocks root.children) ∧
      (∀ front row behind, rows = front ++ row :: behind → Upheld showIds row behind) ∧
      ∀ front row next behind, rows = front ++ row :: next :: behind →
        rowDepth showIds next ≤ rowDepth showIds row + 1 := by
  intro showIds
  have hlegible := legible_lines (ofParams params) root
  have hsplit := splitRows_rows (break_notMem_rows (ofParams params) root)
  rw [← toList_text] at hsplit
  have hdepths : ((linesAll [] ((ofParams params).picture root).forest).map
      (lineChars showIds)).map (rowDepth showIds) =
        depthsAll 0 (Drawing.ofBlocks root.children) := by
    have hlines := lineDepth_linesAll ((ofParams params).picture root).forest []
    rw [picture, depthsAll_seenAll] at hlines
    rw [List.length_nil] at hlines
    rw [List.map_map, picture, ← hlines]
    exact List.map_congr_left fun line hline => rowDepth_lineChars (hlegible line hline)
  refine ⟨_, _, hsplit, hdepths, ?_, ?_⟩
  · intro front row behind hrows
    obtain ⟨front', rest, hls, rfl, hrest⟩ := List.map_eq_append_iff.mp hrows
    obtain ⟨line, behind', rfl, rfl, rfl⟩ := List.map_eq_cons_iff.mp hrest
    have hall := laid_linesAll ((ofParams params).picture root).forest [] [] rfl (by simp)
    rw [hls] at hlegible
    apply upheld_lineChars
    · exact hlegible line (by simp)
    · exact fun line' hline' => hlegible line' (by simp [hline'])
    · exact laid_of_allLaid hall hls
  · intro front row next behind hrows
    have hchain := isChain_depthsAll (Drawing.ofBlocks root.children) 0
    have hfront : (front ++ row :: next :: behind).map (rowDepth showIds) =
        depthsAll 0 (Drawing.ofBlocks root.children) := by
      rw [← hrows]
      exact hdepths
    rw [← hfront, List.map_append, List.map_cons, List.map_cons, List.isChain_append_cons_cons]
      at hchain
    exact hchain.2.1

/-- The rail beside a heading in a block quote leads to the heading behind the quote. -/
theorem rails_never_dangle_quote :
    let rows := ["├─ ❝ 1 blocks".toList, "│ └─ § h1 a".toList, "└─ § h1 b".toList]
    splitRows (treeviz ⟨[]⟩
        ⟨⟨0⟩, [.blockQuote ⟨1⟩ [.heading ⟨2⟩ 1 "a"], .heading ⟨3⟩ 1 "b"]⟩).toList =
      some ("⧉ Root (2 blocks)".toList :: rows) ∧
      rows.map (rowDepth false) = [0, 1, 0] ∧
      Upheld false "│ └─ § h1 a".toList ["└─ § h1 b".toList] ∧
      rowDepth false "│ └─ § h1 a".toList ≤ rowDepth false "├─ ❝ 1 blocks".toList + 1 := by
  intro rows
  have hrows : splitRows (treeviz ⟨[]⟩
      ⟨⟨0⟩, [.blockQuote ⟨1⟩ [.heading ⟨2⟩ 1 "a"], .heading ⟨3⟩ 1 "b"]⟩).toList =
        some ("⧉ Root (2 blocks)".toList :: rows) := by
    rfl
  obtain ⟨top, rows', hsplit, hdepths, hupheld, hnext⟩ := rails_never_dangle ⟨[]⟩
    ⟨⟨0⟩, [.blockQuote ⟨1⟩ [.heading ⟨2⟩ 1 "a"], .heading ⟨3⟩ 1 "b"]⟩
  rw [hrows] at hsplit
  obtain ⟨rfl, rfl⟩ := List.cons.inj (Option.some.inj hsplit)
  exact ⟨hrows, hdepths, hupheld ["├─ ❝ 1 blocks".toList] _ _ rfl, hnext [] _ _ _ rfl⟩

end Treeviz
end Format
end DocTree
