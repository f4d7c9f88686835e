import DocTree.Markup.PlainText
import DocTree.Markup.Count
import DocTree.Tree.Children
import DocTree.Tree.Walk
import DocTree.Build.Conversion
import DocTree.Json.Printer
import DocTree.Build.ToJson
import DocTree.Text.Quoted
import DocTree.Text.Lowercase
import DocTree.Text.Decimal
import DocTree.Text.Punctuation
import DocTree.Format.Registry
import DocTree.Markup.Equality
import DocTree.Tree.Equality
import DocTree.Tree.Address
import DocTree.Ast.Lowering
import DocTree.Main
import DocTree.Proofs.Build.Rows
import DocTree.Proofs.Build.Account
import DocTree.Proofs.Build.Layout
import DocTree.Proofs.Build.History
import DocTree.Proofs.Build.Cleaning
import DocTree.Proofs.Build.Accounting
import DocTree.Proofs.Treeviz.Picture
import DocTree.Proofs.Treeviz.Reading
import DocTree.Proofs.Json.Members
import DocTree.Proofs.Json.Reading
import DocTree.Proofs.Markup.Decoding
import DocTree.Proofs.Treeviz.Agreement
import DocTree.Proofs.Tree.Decoding
import DocTree.Proofs.Tree.Lineage
import DocTree.Proofs.Tree.Removal
import DocTree.Proofs.Tree.Pruning
import DocTree.Proofs.Tree.Cutting
import DocTree.Proofs.Build.Reshaping
import DocTree.Proofs.Format.Registration
import DocTree.Proofs.Ast.PlainText
import DocTree.Proofs.Markup.Outline
import DocTree.Proofs.Ast.Outline
import DocTree.Proofs.Format.Params
import DocTree.Proofs.Settings.Decoding
import DocTree.Proofs.Settings.Knobs
import DocTree.Proofs.Settings.Places
import DocTree.Proofs.Settings.Layering
import DocTree.Proofs.Build.Depth
import DocTree.Proofs.Build.Ownership
import DocTree.Proofs.Build.TableViews
import DocTree.Proofs.Build.Trimming
import DocTree.Proofs.Ast.Collapsing
import DocTree.Proofs.Cli.Scanning
import DocTree.Proofs.Treeviz.Rails
import DocTree.Proofs.Inspect.Report
import DocTree.Proofs.Tree.Filtering
import DocTree.Proofs.Treeviz.Columns
import DocTree.Proofs.Treeviz.Truncation
