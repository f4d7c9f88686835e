import DocTree.Build.Options
import DocTree.Markdown.Options
import DocTree.Settings.Value

/-!
# Settings

The settings of the tools stand in three groups: the grammar, the builders, and inspection.  Every
setting has a default, and the defaults of the grammar and the builders are those of the library.

The delimiter of front matter is a text here, and the empty text means that there is none to be
found.
-/

namespace DocTree
namespace Settings

/-- Settings of the grammar. -/
structure MarkdownSettings where
  table : Bool
  strikethrough : Bool
  autolink : Bool
  tasklist : Bool
  superscript : Bool
  frontMatterDelimiter : String
deriving DecidableEq, Repr

/-- Settings of the tree visualization. -/
structure TreevizSettings where
  showIds : Bool
  maxLabel : Nat
deriving DecidableEq, Repr

/-- Settings of the JSON format. -/
structure JsonSettings where
  diagnostics : Bool
deriving DecidableEq, Repr

/-- Settings of inspection. -/
structure InspectSettings where
  treeviz : TreevizSettings
  json : JsonSettings
deriving DecidableEq, Repr

end Settings

/-- The settings of the tools. -/
structure Settings where
  markdown : Settings.MarkdownSettings
  build : Build.Options
  inspect : Settings.InspectSettings
deriving DecidableEq, Repr

namespace Settings

/-- The options of the grammar that settings mean. -/
def MarkdownSettings.options (settings : MarkdownSettings) : Markdown.Options where
  table := settings.table
  strikethrough := settings.strikethrough
  autolink := settings.autolink
  tasklist := settings.tasklist
  superscript := settings.superscript
  frontMatterDelimiter :=
    if settings.frontMatterDelimiter.isEmpty then none else some settings.frontMatterDelimiter

/-- The values that stand when nothing else is set. -/
def defaults : Value :=
  .table none
    [("markdown", .table none
        [("table", .ofBool true), ("strikethrough", .ofBool true), ("autolink", .ofBool true),
          ("tasklist", .ofBool false), ("superscript", .ofBool false),
          ("front_matter_delimiter", .ofString "---")]),
      ("build", .table none
        [("list_layout", .ofString "flattened"), ("code_trim", .ofString "reference")]),
      ("inspect", .table none
        [("treeviz", .table none [("show_ids", .ofBool false), ("max_label", .ofInt 30)]),
          ("json", .table none [("diagnostics", .ofBool true)])])]

end Settings
end DocTree
