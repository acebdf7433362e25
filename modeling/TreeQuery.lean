import TreeQuery.Association
import TreeQuery.Cache
import TreeQuery.Cli.Arguments
import TreeQuery.Cli.Report
import TreeQuery.Cli.Run
import TreeQuery.Config.Basic
import TreeQuery.Config.Engine
import TreeQuery.Config.Read
import TreeQuery.Diff.Compact
import TreeQuery.Diff.Script
import TreeQuery.Diff.Unified
import TreeQuery.Disk
import TreeQuery.Document
import TreeQuery.Edit
import TreeQuery.Engine
import TreeQuery.Expression.Parser
import TreeQuery.Expression.Printer
import TreeQuery.Expression.Step
import TreeQuery.Generation
import TreeQuery.Hash.Xxh3
import TreeQuery.Json
import TreeQuery.Language
import TreeQuery.Layout.Indent
import TreeQuery.Layout.Position
import TreeQuery.Main
import TreeQuery.Microgrammar.Basic
import TreeQuery.Microgrammar.Locate
import TreeQuery.Microgrammar.Token
import TreeQuery.Project.Basic
import TreeQuery.Project.Load
import TreeQuery.Project.Path
import TreeQuery.Proofs.Cache.History
import TreeQuery.Proofs.Cli.Effects
import TreeQuery.Proofs.Config.Issues
import TreeQuery.Proofs.Disk
import TreeQuery.Proofs.Document.History
import TreeQuery.Proofs.Edit.Algebra
import TreeQuery.Proofs.Edit.Retrying
import TreeQuery.Proofs.Engine.Children
import TreeQuery.Proofs.Engine.Configured
import TreeQuery.Proofs.Engine.Types
import TreeQuery.Proofs.Expression.Frontier
import TreeQuery.Proofs.Expression.Grammar
import TreeQuery.Proofs.Expression.Naming
import TreeQuery.Proofs.Expression.Printing
import TreeQuery.Proofs.Expression.Reading
import TreeQuery.Proofs.Generation.History
import TreeQuery.Proofs.Layout.Order
import TreeQuery.Proofs.Layout.Parts
import TreeQuery.Proofs.Layout.Slicing
import TreeQuery.Proofs.Layout.Units
import TreeQuery.Proofs.Microgrammar.Captures
import TreeQuery.Proofs.Microgrammar.Exact
import TreeQuery.Proofs.Microgrammar.Faults
import TreeQuery.Proofs.Microgrammar.Formed
import TreeQuery.Proofs.Microgrammar.Language
import TreeQuery.Proofs.Microgrammar.Locate
import TreeQuery.Proofs.Microgrammar.Names
import TreeQuery.Proofs.Microgrammar.Pattern
import TreeQuery.Proofs.Microgrammar.Spelling
import TreeQuery.Proofs.Microgrammar.Submatchers
import TreeQuery.Proofs.Microgrammar.Tokens
import TreeQuery.Proofs.Project.Files
import TreeQuery.Proofs.Project.Folders
import TreeQuery.Proofs.Project.Listing
import TreeQuery.Proofs.Project.Loaded
import TreeQuery.Proofs.Project.Loading
import TreeQuery.Proofs.Project.Store
import TreeQuery.Proofs.Query.Comparison
import TreeQuery.Proofs.Query.Composition
import TreeQuery.Proofs.Query.Names
import TreeQuery.Proofs.Query.Once
import TreeQuery.Proofs.Query.Order
import TreeQuery.Proofs.Query.Plain
import TreeQuery.Proofs.Query.Registration
import TreeQuery.Proofs.Query.Repeated
import TreeQuery.Proofs.Query.Walk
import TreeQuery.Proofs.Regex.Carrying
import TreeQuery.Proofs.Regex.Chain
import TreeQuery.Proofs.Regex.Classes
import TreeQuery.Proofs.Regex.Containing
import TreeQuery.Proofs.Regex.Cutting
import TreeQuery.Proofs.Regex.Escapes
import TreeQuery.Proofs.Regex.Matching
import TreeQuery.Proofs.Regex.Patterns
import TreeQuery.Proofs.Regex.Reading
import TreeQuery.Proofs.Regex.Search
import TreeQuery.Proofs.Session.Ancestors
import TreeQuery.Proofs.Session.Basic
import TreeQuery.Proofs.Session.Failing
import TreeQuery.Proofs.Session.Formed
import TreeQuery.Proofs.Session.Genuine
import TreeQuery.Proofs.Session.History
import TreeQuery.Proofs.Session.Live
import TreeQuery.Proofs.Session.Matched
import TreeQuery.Proofs.Session.Members
import TreeQuery.Proofs.Session.Occurrences
import TreeQuery.Proofs.Session.Once
import TreeQuery.Proofs.Session.Ordered
import TreeQuery.Proofs.Session.Placed
import TreeQuery.Proofs.Session.Recorded
import TreeQuery.Proofs.Session.Repeated
import TreeQuery.Proofs.Session.Rereading
import TreeQuery.Proofs.Session.Rewriting
import TreeQuery.Proofs.Session.Selecting
import TreeQuery.Proofs.Session.Stale
import TreeQuery.Proofs.Session.Tags
import TreeQuery.Proofs.Session.Unaltered
import TreeQuery.Proofs.Session.Updates
import TreeQuery.Proofs.Snapshot.Agreement
import TreeQuery.Proofs.Snapshot.Basic
import TreeQuery.Proofs.Snapshot.Branching
import TreeQuery.Proofs.Snapshot.Listing
import TreeQuery.Proofs.Snapshot.Places
import TreeQuery.Proofs.Snapshot.Selection
import TreeQuery.Proofs.Snapshot.Shown
import TreeQuery.Proofs.Snapshot.Survey
import TreeQuery.Proofs.Snapshot.Tree
import TreeQuery.Proofs.Text.Cut
import TreeQuery.Proofs.Text.Native
import TreeQuery.Proofs.Text.Replaced
import TreeQuery.Proofs.Text.Unmixed
import TreeQuery.Proofs.Tree.Positions
import TreeQuery.Proofs.View.Addresses
import TreeQuery.Proofs.View.Elements
import TreeQuery.Proofs.View.Locations
import TreeQuery.Proofs.View.Members
import TreeQuery.Proofs.View.Nesting
import TreeQuery.Proofs.View.Quoting
import TreeQuery.Proofs.View.Spans
import TreeQuery.Proofs.View.Table
import TreeQuery.Proofs.Workspace.Asking
import TreeQuery.Proofs.Workspace.Batches
import TreeQuery.Proofs.Workspace.Climbing
import TreeQuery.Proofs.Workspace.Coherent
import TreeQuery.Proofs.Workspace.Looking
import TreeQuery.Proofs.Workspace.Matching
import TreeQuery.Proofs.Workspace.Notes
import TreeQuery.Proofs.Workspace.Owning
import TreeQuery.Proofs.Workspace.Pinning
import TreeQuery.Proofs.Workspace.Placing
import TreeQuery.Proofs.Workspace.Recording
import TreeQuery.Proofs.Workspace.Records
import TreeQuery.Proofs.Workspace.Remembering
import TreeQuery.Proofs.Workspace.Rereading
import TreeQuery.Proofs.Workspace.Splicing
import TreeQuery.Proofs.Workspace.Standing
import TreeQuery.Proofs.Workspace.Touched
import TreeQuery.Proofs.Workspace.Trees
import TreeQuery.Proofs.Workspace.Walking
import TreeQuery.Proofs.Workspace.Writing
import TreeQuery.Query.Evaluate
import TreeQuery.Query.Forest
import TreeQuery.Query.Registry
import TreeQuery.Regex.Category
import TreeQuery.Regex.CharSet
import TreeQuery.Regex.Class
import TreeQuery.Regex.Derived
import TreeQuery.Regex.Escape
import TreeQuery.Regex.Matcher
import TreeQuery.Regex.Parser
import TreeQuery.Regex.Property
import TreeQuery.Regex.Search
import TreeQuery.Regex.Syntax
import TreeQuery.Text.Bytes
import TreeQuery.Text.Lines
import TreeQuery.Text.Native
import TreeQuery.Text.Quoted
import TreeQuery.Text.Similarity
import TreeQuery.Text.Substring
import TreeQuery.Toml.Parser
import TreeQuery.Toml.Quoted
import TreeQuery.Toml.Scalar
import TreeQuery.Toml.Table
import TreeQuery.Toml.Value
import TreeQuery.Tree.Concrete
import TreeQuery.Tree.Pattern
import TreeQuery.Tree.Rose
import TreeQuery.Unicode.Alphabetic
import TreeQuery.Unicode.Category
import TreeQuery.Unicode.Classes
import TreeQuery.Unicode.Folding
import TreeQuery.Unicode.LetterCase
import TreeQuery.Unicode.Printing
import TreeQuery.Unicode.Property
import TreeQuery.Unicode.Ranges
import TreeQuery.Unicode.Script
import TreeQuery.Unicode.Word
import TreeQuery.View.Generic
import TreeQuery.View.Member
import TreeQuery.View.Projection
import TreeQuery.View.Yaml
import TreeQuery.Workspace.Basic
import TreeQuery.Workspace.Files
import TreeQuery.Workspace.Node
import TreeQuery.Workspace.Text
import TreeQuery.Workspace.Tree
import TreeQuery.Workspace.Types
