import DocTree.Inspect.Transform
import DocTree.Proofs.Ast.Outline
import DocTree.Proofs.Build.Account
import DocTree.Proofs.Treeviz.Reading
import Mathlib.Data.List.DropRight

/-!
# Reading a report of diagnostics

A report puts each diagnostic on a line: the name of its policy, filled up to a column, and its
message.  A kind stands in the message between quotes that are not escaped, so it cannot be found by
its quotes.  It is found from both ends instead.

**Messages.**  The name of the policy tells the texts before and behind the kind (`readMessage`).
A depth is the longest run of digits before the end of its message, since a space stands before it.

**Lines.**  The column has a fixed width, and no policy has a space in its name.  So any line is
read back, whatever its kind is (`readLine_lineChars`).  What can go wrong is that a kind breaks the
line; without line breaks in its kinds, a report is read back (`readReport_report`).

**Kinds.**  What is reported of a lowered syntax tree are names of syntax kinds (`named_document`),
and these have no line breaks.
-/

namespace DocTree

namespace Build

/-- The kind that a diagnostic is about. -/
def Diagnostic.kind : Diagnostic → String
  | blockFallthrough kind => kind
  | inlineDrop kind => kind
  | listChildDrop kind _ => kind

end Build

namespace Inspect

open Ast (Kind Node)
open Build (Diagnostic)
open Format.Treeviz (splitRows splitRows_rows)

section Texts

/-- The part of a text before a given end. -/
def before? (stop chars : List Char) : Option (List Char) :=
  (Text.after? stop.reverse chars.reverse).map List.reverse

theorem before?_append (front stop : List Char) :
    before? stop (front ++ stop) = some front := by
  have hbehind : Text.after? stop.reverse (front ++ stop).reverse = some front.reverse :=
    (Text.after?_eq_some_iff _ _ _).mpr List.reverse_append
  rw [before?, hbehind, Option.map_some, List.reverse_reverse]

/-- The part of a text between a given beginning and a given end. -/
def between? (start stop chars : List Char) : Option (List Char) :=
  (Text.after? start chars).bind (before? stop)

theorem between?_append (start middle stop : List Char) :
    between? start stop (start ++ (middle ++ stop)) = some middle := by
  have hrest : Text.after? start (start ++ (middle ++ stop)) = some (middle ++ stop) :=
    (Text.after?_eq_some_iff _ _ _).mpr rfl
  rw [between?, hrest, Option.bind_some, before?_append]

/-- The longest run of digits at the end of a text as a number, and what stands before it. -/
def splitNumber (chars : List Char) : List Char × Nat :=
  (chars.rdropWhile Char.isDigit, Text.ofDigits (chars.rtakeWhile Char.isDigit))

/-- A number is told from what stands before it if that does not end in a digit. -/
theorem splitNumber_append
    {front : List Char}
    (h : ∀ c ∈ front.getLast?, c.isDigit = false)
    (n : Nat) :
    splitNumber (front ++ Nat.toDigits 10 n) = (front, n) := by
  have hdigits : ∀ c ∈ (Nat.toDigits 10 n).reverse, c.isDigit = true := fun c hc =>
    Nat.isDigit_of_mem_toDigits (by decide) (by decide) (List.mem_reverse.mp hc)
  have hnumber : Text.ofDigits (Nat.toDigits 10 n) = n := Nat.ofDigitChars_ten_toDigits
  have hfront : front.reverse.dropWhile Char.isDigit = front.reverse ∧
      front.reverse.takeWhile Char.isDigit = [] := by
    rw [← List.head?_reverse] at h
    generalize front.reverse = back at h ⊢
    cases back with
    | nil =>
        exact ⟨rfl, rfl⟩
    | cons c back =>
        have hc := h c rfl
        simp [hc]
  rw [splitNumber, List.rdropWhile, List.rtakeWhile, List.reverse_append,
    List.dropWhile_append_of_pos hdigits, List.takeWhile_append_of_pos hdigits, hfront.1, hfront.2,
    List.append_nil, List.reverse_reverse, List.reverse_reverse, hnumber]

end Texts

section Lines

/-- Read a message under the name of a policy. -/
def readMessage (policy : String) (message : List Char) : Option Diagnostic :=
  match policy with
  | "BlockFallthrough" =>
      (between? "block '".toList "' has no node, children kept in place".toList message).map
        fun kind => .blockFallthrough (String.ofList kind)
  | "InlineDrop" =>
      (between? "inline '".toList "' dropped".toList message).map
        fun kind => .inlineDrop (String.ofList kind)
  | "ListChildDrop" =>
      (between? "'".toList " dropped".toList message).bind fun place =>
        (before? "' inside a list item at depth ".toList (splitNumber place).1).map
          fun kind => .listChildDrop (String.ofList kind) (splitNumber place).2
  | _ => none

theorem readMessage_message (loss : Diagnostic) :
    readMessage loss.policy loss.message.toList = some loss := by
  cases loss with
  | blockFallthrough kind =>
      rw [Diagnostic.policy, Diagnostic.message, readMessage, String.toList_append,
        String.toList_append, List.append_assoc, between?_append, Option.map_some,
        String.ofList_toList]
  | inlineDrop kind =>
      rw [Diagnostic.policy, Diagnostic.message, readMessage, String.toList_append,
        String.toList_append, List.append_assoc, between?_append, Option.map_some,
        String.ofList_toList]
  | listChildDrop kind depth =>
      have hmessage : (Diagnostic.listChildDrop kind depth).message.toList =
          "'".toList ++ (kind.toList ++ "' inside a list item at depth ".toList ++
            Nat.toDigits 10 depth ++ " dropped".toList) := by
        simp [Diagnostic.message]
      have hspace : ∀ c ∈ (kind.toList ++ "' inside a list item at depth ".toList).getLast?,
          c.isDigit = false := by
        simp
      rw [hmessage, Diagnostic.policy, readMessage, between?_append, Option.bind_some,
        splitNumber_append hspace, before?_append, Option.map_some, String.ofList_toList]

/-- The policy of a diagnostic, filled up to the width of its column. -/
def column (loss : Diagnostic) : List Char :=
  (padRight 16 loss.policy).toList

theorem length_padRight
    {width : Nat}
    {s : String}
    (h : s.length ≤ width) :
    (padRight width s).toList.length = width := by
  rw [padRight, String.toList_append, List.length_append, String.toList_ofList,
    List.length_replicate, String.length_toList]
  omega

theorem length_column (loss : Diagnostic) :
    (column loss).length = 16 := by
  apply length_padRight
  cases loss <;> rw [Diagnostic.policy] <;> decide

theorem takeWhile_column (loss : Diagnostic) :
    String.ofList ((column loss).takeWhile (· ≠ ' ')) = loss.policy := by
  cases loss <;> simp [column, padRight, Diagnostic.policy]

/-- The line of a diagnostic without its line break. -/
def lineChars (loss : Diagnostic) : List Char :=
  column loss ++ ' ' :: loss.message.toList

theorem toList_reportLine (loss : Diagnostic) :
    (reportLine loss).toList = lineChars loss ++ ['\n'] := by
  simp [reportLine, lineChars, column]

/-- Read the line of a diagnostic. -/
def readLine (line : List Char) : Option Diagnostic :=
  (Text.after? [' '] (line.drop 16)).bind
    (readMessage (String.ofList ((line.take 16).takeWhile (· ≠ ' '))))

/-- Every line is read back, whatever its kind is. -/
theorem readLine_lineChars (loss : Diagnostic) :
    readLine (lineChars loss) = some loss := by
  have hwidth := length_column loss
  have htake : (lineChars loss).take 16 = column loss := by
    rw [lineChars, ← hwidth, List.take_left]
  have hdrop : (lineChars loss).drop 16 = ' ' :: loss.message.toList := by
    rw [lineChars, ← hwidth, List.drop_left]
  have hspace : Text.after? [' '] (' ' :: loss.message.toList) = some loss.message.toList :=
    (Text.after?_eq_some_iff _ _ _).mpr rfl
  rw [readLine, htake, hdrop, hspace, takeWhile_column, Option.bind_some, readMessage_message]

theorem break_notMem_column (loss : Diagnostic) :
    '\n' ∉ column loss := by
  cases loss <;> simp [column, padRight, Diagnostic.policy]

/-- A line is broken by its kind only. -/
theorem break_notMem_lineChars
    {loss : Diagnostic}
    (h : '\n' ∉ loss.kind.toList) :
    '\n' ∉ lineChars loss := by
  have hcolumn := break_notMem_column loss
  cases loss with
  | blockFallthrough kind =>
      rw [Diagnostic.kind] at h
      simp [lineChars, hcolumn, Diagnostic.message, h]
  | inlineDrop kind =>
      rw [Diagnostic.kind] at h
      simp [lineChars, hcolumn, Diagnostic.message, h]
  | listChildDrop kind depth =>
      rw [Diagnostic.kind] at h
      have hdigits := Format.Treeviz.break_notMem_toDigits depth
      simp [lineChars, hcolumn, Diagnostic.message, h, hdigits]

end Lines

section Reports

/-- The lines of a report without their line breaks. -/
def reportRows : List Diagnostic → List (List Char)
  | [] => ["no diagnostics".toList]
  | losses => losses.map lineChars

theorem toList_report (losses : List Diagnostic) :
    (report losses).toList = (reportRows losses).flatMap fun row => row ++ ['\n'] := by
  cases losses with
  | nil =>
      rfl
  | cons loss losses =>
      simp [report, reportRows, toList_reportLine, String.toList_join, List.flatMap_map]

theorem break_notMem_reportRows
    {losses : List Diagnostic}
    (h : ∀ loss ∈ losses, '\n' ∉ loss.kind.toList) :
    ∀ row ∈ reportRows losses, '\n' ∉ row := by
  cases losses with
  | nil =>
      decide
  | cons loss losses =>
      intro row hrow
      obtain ⟨loss', hmem, rfl⟩ := List.mem_map.mp hrow
      exact break_notMem_lineChars (h loss' hmem)

/-- Read a report. -/
def readReport (text : String) : Option (List Diagnostic) :=
  (splitRows text.toList).bind fun rows =>
    if rows = ["no diagnostics".toList] then some [] else rows.mapM readLine

theorem mapM_readLine (losses : List Diagnostic) :
    (losses.map lineChars).mapM readLine = some losses := by
  induction losses with
  | nil =>
      rfl
  | cons loss losses ih =>
      rw [List.map_cons, List.mapM_cons, readLine_lineChars, ih]
      rfl

/-- The line of an empty report is not the line of a diagnostic. -/
theorem lineChars_ne_none (loss : Diagnostic) :
    lineChars loss ≠ "no diagnostics".toList := by
  intro h
  have hread := readLine_lineChars loss
  rw [h] at hread
  contradiction

theorem splitRows_report
    {losses : List Diagnostic}
    (h : ∀ loss ∈ losses, '\n' ∉ loss.kind.toList) :
    splitRows (report losses).toList = some (reportRows losses) := by
  rw [toList_report]
  exact splitRows_rows (break_notMem_reportRows h)

theorem readReport_report
    {losses : List Diagnostic}
    (h : ∀ loss ∈ losses, '\n' ∉ loss.kind.toList) :
    readReport (report losses) = some losses := by
  rw [readReport, splitRows_report h, Option.bind_some]
  cases losses with
  | nil =>
      rfl
  | cons loss losses =>
      have hne : (loss :: losses).map lineChars ≠ ["no diagnostics".toList] := by
        intro heq
        exact lineChars_ne_none loss (List.cons.inj heq).1
      rw [reportRows, if_neg hne, mapM_readLine]
      intro heq
      contradiction

end Reports

section Kinds

open Build (inlinesLosses tableLosses childLosses itemLosses itemsLosses blockLosses blocksLosses)

/-- Whether diagnostics are about kinds of a syntax tree. -/
def Named (losses : List Diagnostic) : Prop :=
  ∀ loss ∈ losses, ∃ kind : Kind, loss.kind = kind.name

theorem named_nil : Named [] := by
  simp [Named]

theorem named_append
    {losses losses' : List Diagnostic}
    (h : Named losses)
    (h' : Named losses') :
    Named (losses ++ losses') := by
  intro loss hloss
  rcases List.mem_append.mp hloss with hmem | hmem
  · exact h loss hmem
  · exact h' loss hmem

theorem named_singleton
    {loss : Diagnostic}
    {kind : Kind}
    (h : loss.kind = kind.name) :
    Named [loss] := by
  intro loss' hloss
  rw [List.mem_singleton.mp hloss]
  exact ⟨kind, h⟩

theorem named_inlines (nodes : List Node) :
    Named (inlinesLosses (Node.inlines nodes)) := by
  induction nodes with
  | nil =>
      exact named_nil
  | cons node nodes ih =>
      have hname := Ast.kindName_inline node
      rw [Node.inlines, inlinesLosses, List.filterMap_cons]
      cases hnode : node.inline with
      | other name text =>
          rw [hnode, Markup.Inline.kindName] at hname
          have hloss : Named [.inlineDrop name] := named_singleton hname
          exact named_append hloss ih
      | _ =>
          exact ih

theorem exists_node_of_mem_row
    {node : Node}
    {cell : Markup.Cell}
    (h : cell ∈ node.row) :
    ∃ node' : Node, cell = node'.cell := by
  obtain ⟨node', _, rfl⟩ := List.mem_map.mp h
  exact ⟨node', rfl⟩

/-- The cells of a lowered table are lowered nodes, in its head as in its rows. -/
theorem exists_node_of_mem_table
    {alignments : List Markup.Alignment}
    {rows : List Node}
    {cell : Markup.Cell}
    (h : cell ∈ (Ast.tableOf alignments rows).head ++ (Ast.tableOf alignments rows).rows.flatten) :
    ∃ node : Node, cell = node.cell := by
  rcases List.mem_append.mp h with hhead | hrows
  · rw [Ast.tableOf] at hhead
    cases hlast : (rows.filter Node.isHeaderRow).getLast? with
    | none =>
        rw [hlast] at hhead
        exact absurd hhead List.not_mem_nil
    | some header =>
        rw [hlast] at hhead
        exact exists_node_of_mem_row hhead
  · obtain ⟨row, hrow, hcell⟩ := List.mem_flatten.mp hrows
    obtain ⟨node, _, rfl⟩ := List.mem_map.mp hrow
    exact exists_node_of_mem_row hcell

theorem named_table (alignments : List Markup.Alignment) (rows : List Node) :
    Named (tableLosses (Ast.tableOf alignments rows)) := by
  intro loss hloss
  obtain ⟨cell, hcell, hmem⟩ := List.mem_flatMap.mp hloss
  obtain ⟨node, rfl⟩ := exists_node_of_mem_table hcell
  exact named_inlines node.children loss hmem

mutual

theorem named_child :
    ∀ (node : Node) (depth : Nat), Named (childLosses node.block depth)
  | .mk kind children, depth => by
      have hname := Ast.kindName_block (.mk kind children)
      cases hkind : kind.isBlock with
      | false =>
          rw [Ast.block_of_not_isBlock hkind]
          exact named_singleton rfl
      | true =>
          cases kind
          case paragraph =>
            exact named_inlines children
          case list =>
            exact named_items children (depth + 1)
          case heading | codeBlock | blockQuote | table =>
            exact named_singleton hname
          all_goals contradiction

theorem named_item :
    ∀ (nodes : List Node) (depth : Nat), Named (itemLosses (Node.blocks nodes) depth)
  | [], _ => named_nil
  | node :: nodes, depth => by
      rw [Node.blocks, itemLosses]
      exact named_append (named_child node depth) (named_item nodes depth)

theorem named_items :
    ∀ (nodes : List Node) (depth : Nat), Named (itemsLosses (Node.items nodes) depth)
  | [], _ => named_nil
  | .mk _ children :: nodes, depth => by
      rw [Node.items, Node.item, itemsLosses]
      exact named_append (named_item children depth) (named_items nodes depth)

end

mutual

theorem named_block :
    ∀ node : Node, Named (blockLosses node.block)
  | .mk kind children => by
      cases hkind : kind.isBlock with
      | false =>
          have hloss : Named [.blockFallthrough kind.name] := named_singleton rfl
          rw [Ast.block_of_not_isBlock hkind, blockLosses]
          exact named_append hloss (named_blocks children)
      | true =>
          cases kind
          case heading | codeBlock =>
            exact named_nil
          case paragraph =>
            exact named_inlines children
          case list =>
            exact named_items children 0
          case blockQuote =>
            exact named_blocks children
          case table alignments =>
            exact named_table alignments children
          all_goals contradiction

theorem named_blocks :
    ∀ nodes : List Node, Named (blocksLosses (Node.blocks nodes))
  | [] => named_nil
  | node :: nodes => by
      rw [Node.blocks, blocksLosses]
      exact named_append (named_block node) (named_blocks nodes)

end

theorem named_document (root : Node) :
    Named (Build.documentLosses root.lower) :=
  named_blocks root.children

theorem break_notMem_name (kind : Kind) :
    '\n' ∉ kind.name.toList := by
  cases kind <;> simp [Kind.name]

end Kinds

/-- **Losses in lines.**  A report of diagnostics whose kinds have no line breaks has one line for
each of them, in their order, or one line that says that there are none.  The diagnostics are read
back from it with their policies, kinds and depths, so no other such diagnostics have the same
report.  What is reported of a lowered syntax tree are names of syntax kinds, without line breaks. -/
theorem report_lossless :
    (∀ losses : List Diagnostic, (∀ loss ∈ losses, '\n' ∉ loss.kind.toList) →
      splitRows (report losses).toList = some (reportRows losses) ∧
      readReport (report losses) = some losses ∧
      ∀ losses' : List Diagnostic, (∀ loss ∈ losses', '\n' ∉ loss.kind.toList) →
        report losses' = report losses → losses' = losses) ∧
    ∀ (root : Node) (params : Format.Params) (options : Build.Options),
      Transform.diagnostics.output params options root.lower =
        .ok (report (Build.build root.lower options).diagnostics) ∧
      ∀ loss ∈ (Build.build root.lower options).diagnostics,
        (∃ kind : Kind, loss.kind = kind.name) ∧ '\n' ∉ loss.kind.toList := by
  constructor
  · intro losses hlosses
    refine ⟨splitRows_report hlosses, readReport_report hlosses, ?_⟩
    intro losses' hlosses' heq
    have hread := readReport_report hlosses'
    rw [heq, readReport_report hlosses] at hread
    exact (Option.some.inj hread).symm
  · intro root params options
    refine ⟨rfl, ?_⟩
    intro loss hloss
    rw [Build.diagnostics_build] at hloss
    obtain ⟨kind, hkind⟩ := named_document root loss hloss
    exact ⟨⟨kind, hkind⟩, hkind ▸ break_notMem_name kind⟩

/-- Kinds that look like the texts behind them, and what is reported of a thematic break. -/
theorem report_lossless_quotes :
    let losses : List Diagnostic :=
      [.inlineDrop "a' dropped", .listChildDrop "b' inside a list item at depth 1" 2]
    let losses' : List Diagnostic := [.inlineDrop "a", .listChildDrop "b" 12]
    let root : Node := .mk .document [.leaf .thematicBreak]
    let loss : Diagnostic := .blockFallthrough "thematic_break"
    (∀ loss ∈ losses ++ losses', '\n' ∉ loss.kind.toList) ∧
      readReport (report losses) = some losses ∧
      report losses' ≠ report losses ∧
      loss ∈ (Build.build root.lower {}).diagnostics ∧
      ∃ kind : Kind, loss.kind = kind.name := by
  intro losses losses' root loss
  obtain ⟨_, hread, hother⟩ := report_lossless.1 losses (by decide)
  have hloss : loss ∈ (Build.build root.lower {}).diagnostics := by
    rw [Build.diagnostics_build]
    decide
  refine ⟨by decide, hread, ?_, hloss, ((report_lossless.2 root ⟨[]⟩ {}).2 loss hloss).1⟩
  intro heq
  exact absurd (hother losses' (by decide) heq) (by decide)

-- A kind that breaks its line can forge the line of another diagnostic.
example :
    report [.inlineDrop "a' dropped\nInlineDrop       inline 'b"] =
      report [.inlineDrop "a", .inlineDrop "b"] := by
  rfl

end Inspect
end DocTree
