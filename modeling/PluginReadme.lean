import PluginReadme.Text.Blank
import PluginReadme.Text.Case
import PluginReadme.Text.Lines
import PluginReadme.Text.Scan
import PluginReadme.Text.Utf8
import PluginReadme.Url.Address
import PluginReadme.Markup.Entity
import PluginReadme.Block.Definitions
import PluginReadme.Block.Collector
import PluginReadme.Request
import PluginReadme.Readme.Heading
import PluginReadme.Readme.Document
import PluginReadme.Check.Issue
import PluginReadme.Check.Score
import PluginReadme.Check.Fields
import PluginReadme.Check.Marks
import PluginReadme.Check.Sections
import PluginReadme.Check.Verdict
import PluginReadme.Repair.Basic
import PluginReadme.Repair.QuickFix
import PluginReadme.Url.HostNumber
import PluginReadme.Url.Reference
import PluginReadme.Markup.Escape
import PluginReadme.Markup.Inline
import PluginReadme.Markup.Render
import PluginReadme.Preview.Slug
import PluginReadme.Preview.Static
import PluginReadme.Preview.Page
import PluginReadme.Preview.Skeleton
import PluginReadme.Terminal.Display
import PluginReadme.Report.Bar
import PluginReadme.Report.Listing
import PluginReadme.Report.Overview
import PluginReadme.Ignore.Filter
import PluginReadme.Toml.Document
import PluginReadme.Settings.Basic
import PluginReadme.Settings.File
import PluginReadme.Diff.Script
import PluginReadme.Diff.Unified
import PluginReadme.Command.Transcript
import PluginReadme.Command.Arguments
import PluginReadme.Command.Basic
import PluginReadme.Command.Run
import PluginReadme.Main
import PluginReadme.Proofs.Outcome
import PluginReadme.Proofs.Text.Trim
import PluginReadme.Proofs.Text.Class
import PluginReadme.Proofs.Text.Lines
import PluginReadme.Proofs.Text.LineEnds
import PluginReadme.Proofs.Text.WideLines
import PluginReadme.Proofs.Text.Utf8
import PluginReadme.Proofs.Readme.Heading
import PluginReadme.Proofs.Readme.Header
import PluginReadme.Proofs.Readme.Sections
import PluginReadme.Proofs.Readme.Region
import PluginReadme.Proofs.Readme.Fields
import PluginReadme.Proofs.Readme.FieldOrder
import PluginReadme.Proofs.Readme.Located
import PluginReadme.Proofs.Check.Emphasis
import PluginReadme.Proofs.Check.Marks
import PluginReadme.Proofs.Check.Findings
import PluginReadme.Proofs.Check.Wording
import PluginReadme.Proofs.Check.Order
import PluginReadme.Proofs.Check.CodeBlocks
import PluginReadme.Proofs.Check.Indentation
import PluginReadme.Proofs.Check.Places
import PluginReadme.Proofs.Check.Spans
import PluginReadme.Proofs.Check.WholeWords
import PluginReadme.Proofs.Repair.SettledLine
import PluginReadme.Proofs.Repair.Settled
import PluginReadme.Proofs.Repair.Idempotent
import PluginReadme.Proofs.Repair.Residue
import PluginReadme.Proofs.Repair.Headings
import PluginReadme.Proofs.Repair.Ink
import PluginReadme.Proofs.Repair.Conservation
import PluginReadme.Proofs.Repair.Log
import PluginReadme.Proofs.Terminal.Message
import PluginReadme.Proofs.Command.Transcript
import PluginReadme.Proofs.Command.Fix
import PluginReadme.Proofs.QuickFix.Applied
import PluginReadme.Proofs.QuickFix.Resolution
import PluginReadme.Proofs.QuickFix.Termination
import PluginReadme.Proofs.QuickFix.Balance
import PluginReadme.Proofs.QuickFix.Insertion
import PluginReadme.Proofs.LineEnds
import PluginReadme.Proofs.Text.Scan
import PluginReadme.Proofs.Text.Cut
import PluginReadme.Proofs.Text.Numbering
import PluginReadme.Proofs.Block.Fenced
import PluginReadme.Proofs.Block.Definition
import PluginReadme.Proofs.Block.Containers
import PluginReadme.Proofs.Block.Collector
import PluginReadme.Proofs.Block.Stripping
import PluginReadme.Proofs.Readme.Boundary
import PluginReadme.Proofs.Preview.Signs
import PluginReadme.Proofs.Preview.Names
import PluginReadme.Proofs.Preview.Tabs
import PluginReadme.Proofs.Preview.Anchors
import PluginReadme.Proofs.Markup.Escape
import PluginReadme.Proofs.Markup.Link
import PluginReadme.Proofs.Markup.Item
import PluginReadme.Proofs.Markup.Groups
import PluginReadme.Proofs.Markup.Enclosed
import PluginReadme.Proofs.Markup.Lines
import PluginReadme.Proofs.Markup.Runs
import PluginReadme.Proofs.Markup.Paragraphs
import PluginReadme.Proofs.Markup.Fenced
import PluginReadme.Proofs.Markup.Verbatim
import PluginReadme.Proofs.Markup.Paired
import PluginReadme.Proofs.Markup.Exempt
import PluginReadme.Proofs.Markup.Tag
import PluginReadme.Proofs.Markup.NestedTag
import PluginReadme.Proofs.Check.Strictness
import PluginReadme.Proofs.Check.Notes
import PluginReadme.Proofs.Check.Severity
import PluginReadme.Proofs.Command.Check
import PluginReadme.Proofs.Text.Upper
import PluginReadme.Proofs.Settings.WellFormed
import PluginReadme.Proofs.Command.Settings
import PluginReadme.Proofs.Preview.Skeleton
import PluginReadme.Proofs.Tree.Entry
import PluginReadme.Proofs.Tree.Path
import PluginReadme.Proofs.Ignore.Filter
import PluginReadme.Proofs.Ignore.Discovery
import PluginReadme.Proofs.Settings.Readable
import PluginReadme.Proofs.Terminal.Tags
import PluginReadme.Proofs.Command.Refusal
import PluginReadme.Proofs.Terminal.Balanced
import PluginReadme.Proofs.Terminal.Display
import PluginReadme.Proofs.Report.Categories
import PluginReadme.Proofs.Report.Overview
