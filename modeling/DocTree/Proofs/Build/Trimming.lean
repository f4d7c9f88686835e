import DocTree.Proofs.Build.Frame
import DocTree.Proofs.Text.Trimming

/-!
# The modes of trimming

Code is trimmed in one of two modes.  The reference mode takes the spaces at the end and one
character more; the other mode takes all white space at the end.

**One text.**  Both modes keep a part from the front.  What decides between them is the character
before the spaces (`trimEnd_dropSpacesAndOne`): if it is white space, or if there is none, what the
reference mode keeps still ends where the other mode trims; otherwise the reference mode keeps one
character less.

**Whole builds.**  A mode is read for code blocks and nowhere else.  So the trees of the two modes
are one tree, once their code blocks have lost their code (`withoutCode_blocks`), and nothing else
that is lost is told differently.
-/

namespace DocTree

namespace Tree

mutual

/-- A block in which the code blocks have lost their code. -/
def Block.withoutCode : Block → Block
  | .heading id level text => .heading id level text
  | .paragraph p => .paragraph p
  | .codeBlock id language _ => .codeBlock id language ""
  | .list l => .list l
  | .table t => .table t
  | .blockQuote id children => .blockQuote id (Block.withoutCodeAll children)

/-- A run of blocks in which the code blocks have lost their code. -/
def Block.withoutCodeAll : List Block → List Block
  | [] => []
  | b :: bs => Block.withoutCode b :: Block.withoutCodeAll bs

end

@[simp] theorem Block.withoutCodeAll_append (blocks blocks' : List Block) :
    Block.withoutCodeAll (blocks ++ blocks') =
      Block.withoutCodeAll blocks ++ Block.withoutCodeAll blocks' := by
  induction blocks with
  | nil =>
      rfl
  | cons block blocks ih =>
      simp [Block.withoutCodeAll, ih]

/-- A tree in which the code blocks have lost their code. -/
def Root.withoutCode (root : Root) : Root :=
  { root with children := Block.withoutCodeAll root.children }

end Tree

namespace Build

section Runs

/-- The characters before the run of spaces that ends a text. -/
def beforeSpaces (chars : List Char) : List Char :=
  chars.take (chars.length - trailingSpaces chars)

theorem trailingSpaces_concat (chars : List Char) (c : Char) :
    trailingSpaces (chars ++ [c]) = if c = ' ' then trailingSpaces chars + 1 else 0 := by
  unfold trailingSpaces
  rw [List.reverse_append, List.reverse_singleton, List.singleton_append, List.takeWhile_cons]
  by_cases hc : c = ' '
  · simp [hc]
  · simp [hc]

/-- The run is the longest one: a text ends in so many spaces and in no more. -/
theorem replicate_suffix_iff (chars : List Char) (j : Nat) :
    List.replicate j ' ' <:+ chars ↔ j ≤ trailingSpaces chars := by
  induction chars using List.reverseRecOn generalizing j with
  | nil =>
      simp [trailingSpaces]
  | append_singleton init last ih =>
      cases j with
      | zero =>
          simp
      | succ j =>
          rw [List.replicate_succ', trailingSpaces_concat]
          by_cases hlast : last = ' '
          · rw [if_pos hlast, hlast, Nat.succ_le_succ_iff, ← ih j]
            constructor
            · rintro ⟨front, hfront⟩
              rw [← List.append_assoc] at hfront
              exact ⟨front, List.append_cancel_right hfront⟩
            · rintro ⟨front, hfront⟩
              exact ⟨front, by rw [← List.append_assoc, hfront]⟩
          · rw [if_neg hlast]
            constructor
            · rintro ⟨front, hfront⟩
              rw [← List.append_assoc] at hfront
              have hends := congrArg List.getLast? hfront
              rw [List.getLast?_concat, List.getLast?_concat, Option.some.injEq] at hends
              exact absurd hends.symm hlast
            · intro hle
              omega

theorem beforeSpaces_concat (chars : List Char) (c : Char) :
    beforeSpaces (chars ++ [c]) = if c = ' ' then beforeSpaces chars else chars ++ [c] := by
  unfold beforeSpaces
  rw [trailingSpaces_concat, List.length_append, List.length_singleton]
  by_cases hc : c = ' '
  · rw [if_pos hc, if_pos hc, Nat.add_sub_add_right, List.take_append_of_le_length]
    omega
  · rw [if_neg hc, if_neg hc, Nat.sub_zero, ← List.length_singleton (a := c), ← List.length_append,
      List.take_length]

/-- White space at the end is trimmed with the spaces or without them. -/
theorem trimEnd_beforeSpaces (chars : List Char) :
    Text.trimEnd (beforeSpaces chars) = Text.trimEnd chars := by
  induction chars using List.reverseRecOn with
  | nil =>
      rfl
  | append_singleton init last ih =>
      rw [beforeSpaces_concat, Text.trimEnd_concat]
      by_cases hlast : last = ' '
      · have hblank : Text.isBlank ' ' = true := by
          decide
        rw [if_pos hlast, hlast, if_pos hblank, ih]
      · rw [if_neg hlast, Text.trimEnd_concat]

theorem dropSpacesAndOne_eq_dropLast (chars : List Char) :
    dropSpacesAndOne chars = (beforeSpaces chars).dropLast := by
  rw [List.dropLast_eq_take, beforeSpaces, List.length_take, List.take_take, dropSpacesAndOne]
  congr 1
  omega

/-- How the two modes compare is decided by the character before the run of spaces. -/
theorem trimEnd_dropSpacesAndOne (chars : List Char) :
    if (beforeSpaces chars).getLast?.all Text.isBlank then
      Text.trimEnd (dropSpacesAndOne chars) = Text.trimEnd chars
    else
      dropSpacesAndOne chars = (Text.trimEnd chars).dropLast := by
  rw [dropSpacesAndOne_eq_dropLast, ← trimEnd_beforeSpaces chars]
  rcases List.eq_nil_or_concat' (beforeSpaces chars) with hnil | ⟨init, last, hconcat⟩
  · rw [hnil]
    rfl
  · rw [hconcat, List.getLast?_concat, List.dropLast_concat, Text.trimEnd_concat]
    cases hlast : Text.isBlank last with
    | false | true => simp [hlast]

end Runs

section Modes

variable {f : Options → Options}

/-- Two results that are the same up to code, in contexts that differ by their options. -/
def SameButCode
    (f : Options → Options)
    (built built' : List Tree.Block × Context) : Prop :=
  Tree.Block.withoutCodeAll built'.1 = Tree.Block.withoutCodeAll built.1 ∧
    built'.2 = built.2.mapOptions f

mutual

theorem withoutCode_block
    (hlayout : ∀ options, (f options).listLayout = options.listLayout) :
    ∀ (source : Markup.Block) (cx : Context),
      SameButCode f (block source cx) (block source (cx.mapOptions f))
  | .heading level content, cx => ⟨rfl, rfl⟩
  | .paragraph content, cx => by
      simp only [block, record_mapOptions, paragraph_mapOptions]
      exact ⟨rfl, rfl⟩
  | .codeBlock info literal, cx => ⟨rfl, rfl⟩
  | .list ordered items, cx => by
      simp only [block, record_mapOptions, list_mapOptions hlayout]
      exact ⟨rfl, rfl⟩
  | .blockQuote children, cx => by
      obtain ⟨hnodes, hcontext⟩ :=
        withoutCode_blocks hlayout children (cx.record .trace "building block_quote").issue
      simp only [block, record_mapOptions, issue_mapOptions, nextId_mapOptions]
      refine ⟨?_, hcontext⟩
      simp only [Tree.Block.withoutCodeAll, Tree.Block.withoutCode, hnodes]
  | .table source, cx => by
      simp only [block, record_mapOptions, table_mapOptions]
      exact ⟨rfl, rfl⟩
  | .other name children, cx => by
      simp only [block, record_mapOptions, report_mapOptions]
      exact withoutCode_blocks hlayout children _

theorem withoutCode_blocks
    (hlayout : ∀ options, (f options).listLayout = options.listLayout) :
    ∀ (source : List Markup.Block) (cx : Context),
      SameButCode f (blocks source cx) (blocks source (cx.mapOptions f))
  | [], cx => ⟨rfl, rfl⟩
  | b :: bs, cx => by
      obtain ⟨hfirst, hcontext⟩ := withoutCode_block hlayout b cx
      obtain ⟨hrest, hlast⟩ := withoutCode_blocks hlayout bs (block b cx).2
      rw [← hcontext] at hrest hlast
      refine ⟨?_, hlast⟩
      simp only [blocks, Tree.Block.withoutCodeAll_append, hfirst, hrest]

end

/-- Builds in two modes give the same tree up to code, and report the same. -/
theorem withoutCode_build
    (doc : Markup.Document)
    (layout : ListLayout)
    (mode mode' : CodeTrim) :
    (build doc ⟨layout, mode⟩).diagnostics = (build doc ⟨layout, mode'⟩).diagnostics ∧
      (build doc ⟨layout, mode⟩).root.withoutCode =
        (build doc ⟨layout, mode'⟩).root.withoutCode := by
  let f : Options → Options := fun options => { options with codeTrim := mode }
  have hlayout : ∀ options, (f options).listLayout = options.listLayout := by
    intro options
    rfl
  -- The context of the first build is the one of the second, with the other mode.
  obtain ⟨hnodes, hcontext⟩ :=
    withoutCode_blocks hlayout doc.children (Context.new ⟨layout, mode'⟩).issue
  have hdiagnostics := congrArg (fun cx : Context => cx.diagnostics.toList) hcontext
  have hroot := congrArg (Tree.Root.mk ⟨0⟩) hnodes
  exact ⟨hdiagnostics, hroot⟩

/-- **Modes of trimming.**  The mode changes the code of code blocks and nothing else in a build.
The reference mode keeps so many characters from the front that the spaces at the end and one more
are gone; the other mode keeps the longest part from the front that does not end in white space.
Where white space stands before the spaces, or nothing, the second mode takes what the first has
left; elsewhere the first takes the last character that the second keeps. -/
theorem trimming_modes_compare :
    (∀ (doc : Markup.Document) (layout : ListLayout),
      (build doc ⟨layout, .reference⟩).diagnostics =
          (build doc ⟨layout, .trailingWhitespace⟩).diagnostics ∧
        (build doc ⟨layout, .reference⟩).root.withoutCode =
          (build doc ⟨layout, .trailingWhitespace⟩).root.withoutCode) ∧
      ∀ code : String,
        (∀ j, List.replicate j ' ' <:+ code.toList ↔ j ≤ trailingSpaces code.toList) ∧
          (trimCode .reference code).toList =
            code.toList.take (code.length - (trailingSpaces code.toList + 1)) ∧
          (trimCode .trailingWhitespace code).toList <+: code.toList ∧
          Text.NoBlankEnd (trimCode .trailingWhitespace code).toList ∧
          (∀ front, front <+: code.toList → Text.NoBlankEnd front →
            front <+: (trimCode .trailingWhitespace code).toList) ∧
          if (beforeSpaces code.toList).getLast?.all Text.isBlank then
            trimCode .trailingWhitespace (trimCode .reference code) =
              trimCode .trailingWhitespace code
          else
            (trimCode .reference code).toList =
              (trimCode .trailingWhitespace code).toList.dropLast := by
  constructor
  · intro doc layout
    exact withoutCode_build doc layout .reference .trailingWhitespace
  · intro code
    have hcompare := trimEnd_dropSpacesAndOne code.toList
    simp only [trimCode, String.toList_ofList, ← String.length_toList]
    refine ⟨replicate_suffix_iff code.toList, rfl, Text.trimEnd_prefix _,
      Text.noBlankEnd_trimEnd _, fun _ hfront hend => Text.prefix_trimEnd hfront hend, ?_⟩
    split at hcompare
    · rename_i hblank
      rw [if_pos hblank, hcompare]
    · rename_i hblank
      rw [if_neg hblank, hcompare]

/-- A tab stands before the spaces; the longest part that does not end in white space ends at the
letter before it. -/
theorem trimming_modes_compare_tab :
    let code := "xé\t  "
    ['x', 'é'] <+: code.toList ∧ Text.NoBlankEnd ['x', 'é'] ∧
      ['x', 'é'] <+: (trimCode .trailingWhitespace code).toList ∧
      trimCode .trailingWhitespace (trimCode .reference code) =
        trimCode .trailingWhitespace code := by
  intro code
  have hfront : ['x', 'é'] <+: code.toList := by
    decide
  have hend : Text.NoBlankEnd ['x', 'é'] := by
    intro c hc
    cases hc
    decide
  obtain ⟨_, _, _, _, hlongest, hcompare⟩ := trimming_modes_compare.2 code
  rw [if_pos (by decide)] at hcompare
  exact ⟨hfront, hend, hlongest ['x', 'é'] hfront hend, hcompare⟩

-- A tab before the spaces is left by the first mode; a letter before them is taken.
example :
    trimCode .reference "x\t\t  " = "x\t" ∧ trimCode .trailingWhitespace "x\t\t  " = "x" ∧
      trimCode .reference "xé  " = "x" ∧ trimCode .trailingWhitespace "xé  " = "xé" := by
  decide

end Modes

end Build
end DocTree
