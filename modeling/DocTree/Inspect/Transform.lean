import DocTree.Ast.Lowering
import DocTree.Format.Registry
import DocTree.Markdown.Document
import DocTree.Markup.Count
import DocTree.Markup.ToJson

/-!
# Transforms

A transform shows a Markdown text at one stage of its way to a semantic tree, in one format.  The
parsed document is shown as JSON; the semantic tree as a drawing or as JSON; and what the tree could
not hold as a report with a line for each loss.
-/

namespace DocTree
namespace Inspect

open Build (Conversion Diagnostic LogRecord)

/-- A stage and a format. -/
inductive Transform
  | treeDrawing
  | treeJson
  | documentJson
  | diagnostics
deriving DecidableEq, Repr

namespace Transform

/-- All transforms, in the order in which they are listed. -/
def all : List Transform :=
  [treeDrawing, treeJson, documentJson, diagnostics]

/-- Name of a transform. -/
def name : Transform → String
  | treeDrawing => "tree-treeviz"
  | treeJson => "tree-json"
  | documentJson => "parse-json"
  | diagnostics => "diagnostics"

/-- The transform that is used when none is named. -/
def default : Transform := treeDrawing

/-- The transform with a given name. -/
def ofName? (s : String) : Option Transform :=
  all.find? fun transform => transform.name == s

end Transform

/-- What may go wrong in a transform. -/
inductive TransformError
  /-- No transform has the name. -/
  | unknown (name : String)
  /-- The format of the transform failed. -/
  | format (error : Format.Error)
deriving DecidableEq, Repr

/-- Text of an error. -/
def TransformError.message : TransformError → String
  | unknown name => "Unknown transform: " ++ name
  | format error => "Transform failed: " ++ error.message

/-- A text filled up with spaces to a width. -/
def padRight (width : Nat) (s : String) : String :=
  s ++ String.ofList (List.replicate (width - s.length) ' ')

/-- The line of the report for a diagnostic. -/
def reportLine (diagnostic : Diagnostic) : String :=
  padRight 16 diagnostic.policy ++ " " ++ diagnostic.message ++ "\n"

/-- The report of diagnostics. -/
def report (diagnostics : List Diagnostic) : String :=
  if diagnostics.isEmpty then "no diagnostics\n"
  else String.join (diagnostics.map reportLine)

/-- The parsed document of a Markdown text. -/
def parseDocument (markdown : Markdown.Options) (source : String) : Markup.Document :=
  (Markdown.parse markdown source).lower

/-- Serialize a conversion in a built-in format. -/
def serialize (format : String) (params : Format.Params) (conversion : Conversion) :
    Except TransformError String :=
  (Format.Registry.builtin.serializeWith format params conversion).mapError .format

/-- The output of a transform for a parsed document. -/
def Transform.output (transform : Transform) (params : Format.Params) (options : Build.Options)
    (doc : Markup.Document) : Except TransformError String :=
  match transform with
  | treeDrawing => serialize "treeviz" params (Build.build doc options)
  | treeJson => serialize "json" params (Build.build doc options)
  | documentJson => .ok doc.json.pretty
  | diagnostics => .ok (report (Build.build doc options).diagnostics)

/-- The output of the transform with a name for a Markdown text. -/
def transform (name : String) (params : Format.Params) (markdown : Markdown.Options)
    (options : Build.Options) (source : String) : Except TransformError String :=
  match Transform.ofName? name with
  | some t => t.output params options (parseDocument markdown source)
  | none => .error (.unknown name)

/-- The log of the transform with a name; a document that is only parsed is not built. -/
def transformLog (name : String) (markdown : Markdown.Options) (options : Build.Options)
    (source : String) : List LogRecord :=
  let doc := parseDocument markdown source
  let parsed : LogRecord :=
    ⟨.debug, "parsed " ++ toString doc.children.length ++ " top-level blocks (" ++
      toString doc.nodeCount ++ " nodes)"⟩
  parsed :: if Transform.ofName? name == some .documentJson then [] else Build.buildLog doc options

end Inspect
end DocTree
