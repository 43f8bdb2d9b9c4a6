import TemplateTree.Literal.Printer
import TemplateTree.Literal.Expression
import TemplateTree.Literal.Lexer
import TemplateTree.Literal.Quoted
import TemplateTree.Template.Decode
import TemplateTree.Text.Identifier
import TemplateTree.Build.CallLog
import TemplateTree.Dom.Query
import TemplateTree.Render
import TemplateTree.Proofs.Dom.Reachable
import TemplateTree.Proofs.Dom.Walk
import TemplateTree.Proofs.Dom.Append
import TemplateTree.Proofs.Dom.Removal
import TemplateTree.Proofs.Build.Growth
import TemplateTree.Proofs.Build.Stop
import TemplateTree.Proofs.Build.Order
import TemplateTree.Proofs.Html.Unambiguous
import TemplateTree.Proofs.Build.Replay
import TemplateTree.Proofs.Build.Pieces
import TemplateTree.Proofs.Selector.Layout
import TemplateTree.Proofs.Template.Grammar
import TemplateTree.Proofs.Template.Encoding
import TemplateTree.Proofs.Literal.Agreement
import TemplateTree.Proofs.Build.Depth
import TemplateTree.Proofs.Build.Isolation
import TemplateTree.Proofs.Html.Brackets
import TemplateTree.Proofs.Template.Decoding
import TemplateTree.Proofs.Dom.Paths
import TemplateTree.Proofs.Html.Stripped
import TemplateTree.Proofs.Selector.Canonical
import TemplateTree.Proofs.Build.Sparing
import TemplateTree.Proofs.Dom.Selection
import TemplateTree.Proofs.Text.Words
import TemplateTree.Proofs.Build.Selected
import TemplateTree.Proofs.Build.Respelled
import TemplateTree.Proofs.Build.Traced
import TemplateTree.Proofs.Dom.Attributes
import TemplateTree.Proofs.Literal.Notation
import TemplateTree.Proofs.Literal.Enclosed
import TemplateTree.Proofs.Selector.Spans
