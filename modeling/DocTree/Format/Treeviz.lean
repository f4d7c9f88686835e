import DocTree.Format.Drawing
import DocTree.Format.Params

/-!
# Tree visualization

A tree is shown with one node to a line.  A line holds an optional id column, one rail of two
characters for each level above the node, a connector, an icon and a label:

    ⧉ Root (2 blocks)
    ├─ § h1 Title
    └─ ☰ unordered, depth 0 (1 entries)
      └─ • A
        └─ ◦ A

A rail runs on while a later node of its level follows under the same parent.  Labels are put on one
line and cut to a maximal number of characters.

Parameters: `show-ids` puts the id column in front, `max-label` sets the maximal length of a label.
-/

namespace DocTree
namespace Format

open DocTree.Tree (NodeId)

/-- How a drawing is written. -/
structure Treeviz where
  /-- Whether every line starts with the id column. -/
  showIds : Bool
  /-- The number of characters after which a label is cut. -/
  maxLabel : Nat
deriving DecidableEq, Repr

namespace Treeviz

/-- The length after which labels are cut when no parameter says otherwise. -/
def defaultMaxLabel : Nat := 30

/-- The way of writing that parameters ask for. -/
def ofParams (params : Params) : Treeviz where
  showIds := params.flag "show-ids" false
  maxLabel := params.number "max-label" defaultMaxLabel

/-- A line of a visualization before it is written. -/
structure Line where
  id : Option NodeId
  /-- For each level above, from the outermost on, whether its rail runs on. -/
  rails : List Bool
  /-- Whether the node is the last one under its parent. -/
  last : Bool
  icon : String
  label : String
deriving DecidableEq, Repr

mutual

/-- The lines of a drawing under given rails. -/
def lines (rails : List Bool) (last : Bool) : Drawing → List Line
  | .mk id icon label children =>
      ⟨id, rails, last, icon, label⟩ :: linesAll (rails ++ [!last]) children

/-- The lines of the drawings under one parent. -/
def linesAll (rails : List Bool) : List Drawing → List Line
  | [] => []
  | d :: ds => lines rails ds.isEmpty d ++ linesAll rails ds

end

/-- A label on one line. -/
def flatten (label : List Char) : List Char :=
  label.map fun c => if c == '\n' then ' ' else c

/-- The first characters of a label and an ellipsis, or the label itself if it is short enough. -/
def cut (limit : Nat) (label : List Char) : List Char :=
  if label.length ≤ limit then label else label.take limit ++ ['…']

/-- A label as it is written. -/
def shorten (limit : Nat) (label : String) : String :=
  String.ofList (cut limit (flatten label.toList))

/-- The id column of a line. -/
def idColumn (style : Treeviz) : Option NodeId → String
  | some id => if style.showIds then Text.padded 3 id.index ++ " " else ""
  | none => if style.showIds then "    " else ""

/-- A rail as it is written. -/
def rail (runsOn : Bool) : String :=
  if runsOn then "│ " else "  "

/-- The connector of a node. -/
def connector (last : Bool) : String :=
  if last then "└─" else "├─"

/-- A line as it is written, with its line break. -/
def lineText (style : Treeviz) (line : Line) : String :=
  style.idColumn line.id ++ String.join (line.rails.map rail) ++ connector line.last ++ " " ++
    line.icon ++ " " ++ shorten style.maxLabel line.label ++ "\n"

/-- The line of the root. -/
def rootLine (style : Treeviz) (root : Tree.Root) : String :=
  style.idColumn (some root.id) ++ icon "Root" ++ " Root (" ++
    toString root.children.length ++ " blocks)\n"

/-- A tree as it is written. -/
def text (style : Treeviz) (root : Tree.Root) : String :=
  style.rootLine root ++
    String.join ((linesAll [] (Drawing.ofBlocks root.children)).map style.lineText)

end Treeviz

/-- Visualize a tree. -/
def treeviz (params : Params) (root : Tree.Root) : String :=
  (Treeviz.ofParams params).text root

end Format
end DocTree
