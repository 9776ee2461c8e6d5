import MiniTemplate.Text.Bytes
import MiniTemplate.Text.Blank
import MiniTemplate.Text.Flow
import MiniTemplate.Text.Identifier
import MiniTemplate.Script.Token
import MiniTemplate.Script.Lexer
import MiniTemplate.Script.Tree
import MiniTemplate.Script.Parser
import MiniTemplate.Script.Grammar.Binding
import MiniTemplate.Script.Grammar.Function
import MiniTemplate.Script.Grammar.Class
import MiniTemplate.Script.Grammar.Literal
import MiniTemplate.Script.Grammar.Markup
import MiniTemplate.Script.Grammar.Expression
import MiniTemplate.Script.Grammar.Module
import MiniTemplate.Script.Grammar.Statement
import MiniTemplate.Script.Program
import MiniTemplate.Position
import MiniTemplate.Template.Basic
import MiniTemplate.Template.Equality
import MiniTemplate.Template.Visitor
import MiniTemplate.Template.Printer
import MiniTemplate.Diagnostic
import MiniTemplate.Dialect
import MiniTemplate.Registry
import MiniTemplate.Script.PropCall
import MiniTemplate.Extraction
import MiniTemplate.Binding
import MiniTemplate.Inlining
import MiniTemplate.Audit
import MiniTemplate.Lowering
import MiniTemplate.Template.FromScript
import MiniTemplate.FilePath
import MiniTemplate.Stylesheet
import MiniTemplate.Compiler
import MiniTemplate.Json.Basic
import MiniTemplate.Json.Template
import MiniTemplate.Json.Records
import MiniTemplate.Proofs.Trees
import MiniTemplate.Proofs.Names
import MiniTemplate.Proofs.Rewriting
import MiniTemplate.Proofs.Lifting
import MiniTemplate.Proofs.Restoration
import MiniTemplate.Proofs.Sessions
import MiniTemplate.Proofs.Inlining
import MiniTemplate.Proofs.Acceptance
import MiniTemplate.Proofs.OuterTree
import MiniTemplate.Proofs.Settlement
import MiniTemplate.Proofs.Idempotence
import MiniTemplate.Proofs.Coverage
import MiniTemplate.Proofs.Collisions
import MiniTemplate.Proofs.Frames
import MiniTemplate.Proofs.Provenance
import MiniTemplate.Proofs.Selection
import MiniTemplate.Proofs.Unambiguity
import MiniTemplate.Proofs.Dispatch
import MiniTemplate.Proofs.Positions
import MiniTemplate.Proofs.Reading
import MiniTemplate.Proofs.RoundTrip
import MiniTemplate.Proofs.PostOrder
import MiniTemplate.Proofs.Numbering
import MiniTemplate.Proofs.Sharing
import MiniTemplate.Proofs.Showing
import MiniTemplate.Proofs.Marking
import MiniTemplate.Proofs.Tallying
import MiniTemplate.Proofs.Sites
import MiniTemplate.Proofs.Splicing
import MiniTemplate.Proofs.Refusals
import MiniTemplate.Proofs.Quotations
import MiniTemplate.Proofs.RootPaths
import MiniTemplate.Proofs.Stylesheets
import MiniTemplate.Proofs.Layout
import MiniTemplate.Proofs.LineTable
