import Hygiene.Calendar
import Hygiene.Check
import Hygiene.Check.File
import Hygiene.Check.Plan
import Hygiene.Color
import Hygiene.CommandLine.Arguments
import Hygiene.CommandLine.Matches
import Hygiene.CommandLine.Option
import Hygiene.CommandLine.Run
import Hygiene.Config.Discovery
import Hygiene.Config.Load
import Hygiene.Config.Reader
import Hygiene.Config.Settings
import Hygiene.Config.Warning
import Hygiene.Content
import Hygiene.Error
import Hygiene.Failure
import Hygiene.FileKind
import Hygiene.FileTree
import Hygiene.FileTree.Access
import Hygiene.FileTree.Locate
import Hygiene.Glob.Match
import Hygiene.Glob.Pattern
import Hygiene.Header.Fix
import Hygiene.Header.Notice
import Hygiene.Header.Verdict
import Hygiene.Ignore.Level
import Hygiene.Ignore.Listing
import Hygiene.Ignore.Rule
import Hygiene.Launch
import Hygiene.Launch.Execution
import Hygiene.Log
import Hygiene.Log.Filter
import Hygiene.Main
import Hygiene.Path
import Hygiene.Proofs.Check.Access
import Hygiene.Proofs.Check.Alone
import Hygiene.Proofs.Check.Evolution
import Hygiene.Proofs.Check.ExitCode
import Hygiene.Proofs.Check.Foreign
import Hygiene.Proofs.Check.Independence
import Hygiene.Proofs.Check.Outgrown
import Hygiene.Proofs.Check.Repeat
import Hygiene.Proofs.Check.Step
import Hygiene.Proofs.Check.WalkedFile
import Hygiene.Proofs.CommandLine.Acceptance
import Hygiene.Proofs.CommandLine.ExitCodes
import Hygiene.Proofs.CommandLine.LintCode
import Hygiene.Proofs.CommandLine.Plan
import Hygiene.Proofs.CommandLine.Setup
import Hygiene.Proofs.Config.Carried
import Hygiene.Proofs.Config.Discovery
import Hygiene.Proofs.Config.Unknown
import Hygiene.Proofs.Header.Accepted
import Hygiene.Proofs.Header.BlankLines
import Hygiene.Proofs.Header.Fixed
import Hygiene.Proofs.Header.InRange
import Hygiene.Proofs.Header.Interpreter
import Hygiene.Proofs.Header.LineEnds
import Hygiene.Proofs.Header.Offsets
import Hygiene.Proofs.Header.Paragraphs
import Hygiene.Proofs.Header.Removal
import Hygiene.Proofs.Header.Rendered
import Hygiene.Proofs.Header.Replaced
import Hygiene.Proofs.Header.Shebang
import Hygiene.Proofs.Header.TopOnly
import Hygiene.Proofs.Header.Verification
import Hygiene.Proofs.Header.Window
import Hygiene.Proofs.Header.Years
import Hygiene.Proofs.Path.Ancestors
import Hygiene.Proofs.Path.Below
import Hygiene.Proofs.Path.Fields
import Hygiene.Proofs.Path.Joined
import Hygiene.Proofs.Path.Lineage
import Hygiene.Proofs.Path.Normal
import Hygiene.Proofs.Path.Order
import Hygiene.Proofs.Path.Spelling
import Hygiene.Proofs.Python.Beginnings
import Hygiene.Proofs.Python.Blank
import Hygiene.Proofs.Python.ClosingBrace
import Hygiene.Proofs.Python.Commented
import Hygiene.Proofs.Python.CommentedVerdicts
import Hygiene.Proofs.Python.Enclosing
import Hygiene.Proofs.Python.Generators
import Hygiene.Proofs.Python.Grammatical
import Hygiene.Proofs.Python.Guarded
import Hygiene.Proofs.Python.Interspersed
import Hygiene.Proofs.Python.Iteration
import Hygiene.Proofs.Python.Judging
import Hygiene.Proofs.Python.Likeness
import Hygiene.Proofs.Python.OffLimits
import Hygiene.Proofs.Python.Parentheses
import Hygiene.Proofs.Python.Parts
import Hygiene.Proofs.Python.Pointwise
import Hygiene.Proofs.Python.Recursion
import Hygiene.Proofs.Python.Redundant
import Hygiene.Proofs.Python.Resemblance
import Hygiene.Proofs.Python.Reworded
import Hygiene.Proofs.Python.RuleByRule
import Hygiene.Proofs.Python.Selection
import Hygiene.Proofs.Python.Silence
import Hygiene.Proofs.Python.Slots
import Hygiene.Proofs.Python.StableSort
import Hygiene.Proofs.Python.Stack
import Hygiene.Proofs.Python.StringSums
import Hygiene.Proofs.Python.Underway
import Hygiene.Proofs.Python.Verdicts
import Hygiene.Proofs.Python.Walk
import Hygiene.Proofs.Python.Wrapped
import Hygiene.Proofs.Report.Agreement
import Hygiene.Proofs.Report.Document
import Hygiene.Proofs.Report.Terminal
import Hygiene.Proofs.Shell.ByLine
import Hygiene.Proofs.Text.Content
import Hygiene.Proofs.Text.Cut
import Hygiene.Proofs.Text.Encoding
import Hygiene.Proofs.Text.Fields
import Hygiene.Proofs.Text.FirstLine
import Hygiene.Proofs.Text.Lines
import Hygiene.Proofs.Text.Listed
import Hygiene.Proofs.Text.Returns
import Hygiene.Proofs.Text.Search
import Hygiene.Proofs.Text.Words
import Hygiene.Proofs.Toml.Distinct
import Hygiene.Proofs.Toml.Handover
import Hygiene.Proofs.Tree.Destination
import Hygiene.Proofs.Tree.Direct
import Hygiene.Proofs.Tree.Leads
import Hygiene.Proofs.Tree.Listing
import Hygiene.Proofs.Tree.Outline
import Hygiene.Proofs.Tree.Place
import Hygiene.Proofs.Tree.Shortened
import Hygiene.Proofs.Walk.Counted
import Hygiene.Proofs.Walk.Excluded
import Hygiene.Proofs.Walk.Kept
import Hygiene.Proofs.Walk.Obstacles
import Hygiene.Proofs.Walk.Resolved
import Hygiene.Proofs.Walk.Stable
import Hygiene.Proofs.Walk.Told
import Hygiene.Proofs.Workspace.Exchange
import Hygiene.Proofs.Workspace.Replacement
import Hygiene.Python.Automaton
import Hygiene.Python.Cursor
import Hygiene.Python.Files
import Hygiene.Python.Grammar
import Hygiene.Python.Identifier
import Hygiene.Python.Kind
import Hygiene.Python.Layout
import Hygiene.Python.Lexeme
import Hygiene.Python.Lint
import Hygiene.Python.Linter
import Hygiene.Python.Parse
import Hygiene.Python.Place
import Hygiene.Python.Production
import Hygiene.Python.Repair
import Hygiene.Python.Repair.Attempt
import Hygiene.Python.Repair.Completion
import Hygiene.Python.Repair.Piece
import Hygiene.Python.Repair.Recovery
import Hygiene.Python.Repair.Scan
import Hygiene.Python.Repair.Search
import Hygiene.Python.Rule
import Hygiene.Python.Rule.Expressions
import Hygiene.Python.Rule.Functions
import Hygiene.Python.Rule.Imports
import Hygiene.Python.Rule.Shapes
import Hygiene.Python.Shape
import Hygiene.Python.Source
import Hygiene.Python.Table
import Hygiene.Python.Tree
import Hygiene.Remark
import Hygiene.Report
import Hygiene.Report.Json
import Hygiene.Report.Plain
import Hygiene.Report.Styled
import Hygiene.Shebang
import Hygiene.Shell.Directive
import Hygiene.Shell.Lint
import Hygiene.SystemError
import Hygiene.SystemPath
import Hygiene.Text.Basic
import Hygiene.Text.Blank
import Hygiene.Text.Digit
import Hygiene.Text.Line
import Hygiene.Text.Quoted
import Hygiene.Toml.Document
import Hygiene.Toml.Handover
import Hygiene.Toml.Moment
import Hygiene.Toml.Number
import Hygiene.Toml.Quoted
import Hygiene.Toml.Table
import Hygiene.Toml.Value
import Hygiene.Walk
import Hygiene.Walk.Exclusion
import Hygiene.Walk.Obstacle
import Hygiene.Walk.Tally
import Hygiene.Walk.Targets
import Hygiene.Workspace
import Hygiene.Workspace.Replace
