import DocTree.Build.Conversion
import DocTree.Proofs.Build.Rows

/-!
# What the builders read of the options

The options are fixed for a build, so a change of the options commutes with everything that does
not read them.  `Context.mapOptions` makes such a change; the builders of inlines, paragraphs and
tables build the same nodes in the context that it gives, and report the same.  The builders of
lists read the layout alone, so they do the same under a change that keeps it.
-/

namespace DocTree
namespace Build

/-- A context with other options. -/
def Context.mapOptions (f : Options → Options) (cx : Context) : Context :=
  { cx with options := f cx.options }

section Context

variable (f : Options → Options) (cx : Context)

@[simp] theorem options_mapOptions :
    (cx.mapOptions f).options = f cx.options := by
  rfl

@[simp] theorem diagnostics_mapOptions :
    (cx.mapOptions f).diagnostics = cx.diagnostics := by
  rfl

@[simp] theorem nextId_mapOptions :
    (cx.mapOptions f).nextId = cx.nextId := by
  rfl

@[simp] theorem issue_mapOptions :
    (cx.mapOptions f).issue = cx.issue.mapOptions f := by
  rfl

@[simp] theorem record_mapOptions (level : LogLevel) (message : String) :
    (cx.mapOptions f).record level message = (cx.record level message).mapOptions f := by
  rfl

@[simp] theorem report_mapOptions (diagnostic : Diagnostic) :
    (cx.mapOptions f).report diagnostic = (cx.report diagnostic).mapOptions f := by
  rfl

end Context

section Builders

variable (f : Options → Options)

theorem inline_mapOptions (source : Markup.Inline) (cx : Context) :
    inline source (cx.mapOptions f) =
      ((inline source cx).1, (inline source cx).2.mapOptions f) := by
  unfold inline
  rw [nextId_mapOptions]
  cases inlineNode? cx.nextId source <;> simp

theorem inlines_mapOptions (content : List Markup.Inline) (cx : Context) :
    inlines content (cx.mapOptions f) =
      ((inlines content cx).1, (inlines content cx).2.mapOptions f) := by
  induction content generalizing cx with
  | nil =>
      rfl
  | cons source content ih =>
      simp only [inlines, inline_mapOptions, ih]

@[simp] theorem paragraph_mapOptions (content : List Markup.Inline) (cx : Context) :
    paragraph content (cx.mapOptions f) =
      ((paragraph content cx).1, (paragraph content cx).2.mapOptions f) := by
  simp only [paragraph, issue_mapOptions, nextId_mapOptions, inlines_mapOptions]

theorem paragraphs_mapOptions (cells : List Markup.Cell) (cx : Context) :
    paragraphs cells (cx.mapOptions f) =
      ((paragraphs cells cx).1, (paragraphs cells cx).2.mapOptions f) := by
  induction cells generalizing cx with
  | nil =>
      rfl
  | cons cell cells ih =>
      simp only [paragraphs, paragraph_mapOptions, ih]

theorem rows_mapOptions (source : List (List Markup.Cell)) (cx : Context) :
    rows source (cx.mapOptions f) =
      ((rows source cx).1, (rows source cx).2.mapOptions f) := by
  induction source generalizing cx with
  | nil =>
      rfl
  | cons cells source ih =>
      simp only [rows, paragraphs_mapOptions, ih]

@[simp] theorem table_mapOptions (source : Markup.Table) (cx : Context) :
    table source (cx.mapOptions f) =
      ((table source cx).1, (table source cx).2.mapOptions f) := by
  simp only [table_eq_tableByRows, tableByRows, issue_mapOptions, nextId_mapOptions,
    paragraphs_mapOptions, rows_mapOptions]

end Builders

section Lists

variable {f : Options → Options}

/-- A step through the children of a source item, in a context with other options. -/
def ListStep.mapOptions (f : Options → Options) (step : ListStep) : ListStep :=
  { step with context := step.context.mapOptions f }

theorem placeSublist_mapOptions
    (hlayout : ∀ options, (f options).listLayout = options.listLayout)
    (sublist : Tree.ListNode)
    (held : Option HeldItem)
    (cx : Context) :
    placeSublist sublist held (cx.mapOptions f) = (placeSublist sublist held cx).mapOptions f := by
  unfold placeSublist
  rw [options_mapOptions, hlayout]
  split <;> rfl

mutual

theorem listChild_mapOptions
    (hlayout : ∀ options, (f options).listLayout = options.listLayout) :
    ∀ (child : Markup.Block) (depth : Nat) (held : Option HeldItem) (cx : Context),
      listChild child depth held (cx.mapOptions f) =
        (listChild child depth held cx).mapOptions f
  | .paragraph content, depth, held, cx => by
      simp only [listChild, issue_mapOptions, nextId_mapOptions, paragraph_mapOptions]
      rfl
  | .list ordered items, depth, held, cx => by
      have hbelow := listItems_mapOptions hlayout items (depth + 1) cx.issue
      simp only [listChild, issue_mapOptions, nextId_mapOptions, hbelow]
      exact placeSublist_mapOptions hlayout _ held _
  | .heading _ _, _, _, _
  | .codeBlock _ _, _, _, _
  | .blockQuote _, _, _, _
  | .table _, _, _, _
  | .other _ _, _, _, _ => rfl

theorem itemEntries_mapOptions
    (hlayout : ∀ options, (f options).listLayout = options.listLayout) :
    ∀ (children : List Markup.Block) (depth : Nat) (held : Option HeldItem) (cx : Context),
      itemEntries children depth held (cx.mapOptions f) =
        ((itemEntries children depth held cx).1,
          (itemEntries children depth held cx).2.mapOptions f)
  | [], depth, held, cx => rfl
  | child :: children, depth, held, cx => by
      have hstep := listChild_mapOptions hlayout child depth held cx
      have hrest := itemEntries_mapOptions hlayout children depth
        (listChild child depth held cx).held (listChild child depth held cx).context
      simp only [itemEntries, hstep, ListStep.mapOptions, hrest]

theorem listItems_mapOptions
    (hlayout : ∀ options, (f options).listLayout = options.listLayout) :
    ∀ (items : List (List Markup.Block)) (depth : Nat) (cx : Context),
      listItems items depth (cx.mapOptions f) =
        ((listItems items depth cx).1, (listItems items depth cx).2.mapOptions f)
  | [], depth, cx => rfl
  | item :: items, depth, cx => by
      have hfirst := itemEntries_mapOptions hlayout item depth none cx
      have hrest := listItems_mapOptions hlayout items depth (itemEntries item depth none cx).2
      simp only [listItems, hfirst, hrest]

end

theorem list_mapOptions
    (hlayout : ∀ options, (f options).listLayout = options.listLayout)
    (ordered : Bool)
    (items : List (List Markup.Block))
    (depth : Nat)
    (cx : Context) :
    list ordered items depth (cx.mapOptions f) =
      ((list ordered items depth cx).1, (list ordered items depth cx).2.mapOptions f) := by
  simp only [list, issue_mapOptions, nextId_mapOptions, listItems_mapOptions hlayout]

end Lists

end Build
end DocTree
