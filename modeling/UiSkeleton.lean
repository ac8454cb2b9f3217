import UiSkeleton.Analysis
import UiSkeleton.Catalog.Basic
import UiSkeleton.Catalog.Builtin
import UiSkeleton.Catalog.Rule
import UiSkeleton.Color
import UiSkeleton.CommandLine.Command
import UiSkeleton.CommandLine.Run
import UiSkeleton.CommandLine.Usage
import UiSkeleton.Config
import UiSkeleton.Conversion
import UiSkeleton.ExampleName
import UiSkeleton.Failure
import UiSkeleton.FileTree.Action
import UiSkeleton.FileTree.Basic
import UiSkeleton.FileTree.Walk
import UiSkeleton.Json.Basic
import UiSkeleton.Json.Error
import UiSkeleton.Json.Record
import UiSkeleton.Json.Scan
import UiSkeleton.Log
import UiSkeleton.Main
import UiSkeleton.Naming
import UiSkeleton.Number.Binary64
import UiSkeleton.Number.Decimal
import UiSkeleton.OutputLayout
import UiSkeleton.Path
import UiSkeleton.Pattern.Basic
import UiSkeleton.Pattern.Matcher
import UiSkeleton.Pattern.Reader
import UiSkeleton.Pattern.Replacement
import UiSkeleton.Pattern.Search
import UiSkeleton.Proofs.Catalog.Balance
import UiSkeleton.Proofs.Catalog.Chain
import UiSkeleton.Proofs.Catalog.ColorCall
import UiSkeleton.Proofs.Catalog.ColorMention
import UiSkeleton.Proofs.Catalog.Construct
import UiSkeleton.Proofs.Catalog.Order
import UiSkeleton.Proofs.Catalog.Rewording
import UiSkeleton.Proofs.Catalog.Segment
import UiSkeleton.Proofs.Catalog.StringChild
import UiSkeleton.Proofs.Catalog.Unchanged
import UiSkeleton.Proofs.Catalog.WindowSize
import UiSkeleton.Proofs.ColorOrder
import UiSkeleton.Proofs.Conversion
import UiSkeleton.Proofs.ExampleName
import UiSkeleton.Proofs.FileTree.Bounds
import UiSkeleton.Proofs.FileTree.Change
import UiSkeleton.Proofs.FileTree.Operations
import UiSkeleton.Proofs.FileTree.Place
import UiSkeleton.Proofs.FontCopy
import UiSkeleton.Proofs.FontPlace
import UiSkeleton.Proofs.Listing
import UiSkeleton.Proofs.Naming
import UiSkeleton.Proofs.Number.Channel
import UiSkeleton.Proofs.Number.Pixels
import UiSkeleton.Proofs.Number.Value
import UiSkeleton.Proofs.Outcome
import UiSkeleton.Proofs.OutputLayout
import UiSkeleton.Proofs.Path
import UiSkeleton.Proofs.Pattern.Edits
import UiSkeleton.Proofs.Pattern.Greedy
import UiSkeleton.Proofs.Pattern.Group
import UiSkeleton.Proofs.Pattern.Leftmost
import UiSkeleton.Proofs.Pattern.Matches
import UiSkeleton.Proofs.Pattern.Needle
import UiSkeleton.Proofs.Pattern.Numbering
import UiSkeleton.Proofs.Pattern.Pieces
import UiSkeleton.Proofs.Pattern.Rewritten
import UiSkeleton.Proofs.Pattern.Spelling
import UiSkeleton.Proofs.Pattern.Views
import UiSkeleton.Proofs.Pattern.Way
import UiSkeleton.Proofs.Report.CodeBlocks
import UiSkeleton.Proofs.Report.Data
import UiSkeleton.Proofs.Report.Fence
import UiSkeleton.Proofs.Report.Markup
import UiSkeleton.Proofs.Skeleton.Block
import UiSkeleton.Proofs.Skeleton.ChainLines
import UiSkeleton.Proofs.Skeleton.ColorBlock
import UiSkeleton.Proofs.Skeleton.ColorConstant
import UiSkeleton.Proofs.Skeleton.ColorLines
import UiSkeleton.Proofs.Skeleton.Data
import UiSkeleton.Proofs.Skeleton.Declarations
import UiSkeleton.Proofs.Skeleton.Excerpt
import UiSkeleton.Proofs.Skeleton.FeatureBlocks
import UiSkeleton.Proofs.Skeleton.LiveCode
import UiSkeleton.Proofs.Stages
import UiSkeleton.Proofs.Template.Fill
import UiSkeleton.Proofs.Template.Rows
import UiSkeleton.Proofs.Text.Ascii
import UiSkeleton.Proofs.Text.Blank
import UiSkeleton.Proofs.Text.Lines
import UiSkeleton.Proofs.Title
import UiSkeleton.Report.Generator
import UiSkeleton.Report.Templates
import UiSkeleton.Skeleton.Blocks
import UiSkeleton.Skeleton.Generator
import UiSkeleton.Skeleton.Target
import UiSkeleton.Skeleton.ZapTemplate
import UiSkeleton.SortedSet
import UiSkeleton.Source
import UiSkeleton.Template.Basic
import UiSkeleton.Template.Reader
import UiSkeleton.Template.Render
import UiSkeleton.Template.Store
import UiSkeleton.Text.Blank
import UiSkeleton.Text.Case
import UiSkeleton.Text.Character
import UiSkeleton.Text.Property.CaseIgnorable
import UiSkeleton.Text.Property.Cased
import UiSkeleton.Text.Property.Word
import UiSkeleton.Text.Property.Hidden
import UiSkeleton.Text.Property.Joining
import UiSkeleton.Text.Property.Lower
import UiSkeleton.Text.Property.Upper
import UiSkeleton.Text.Similarity
import UiSkeleton.Text.Utf8
import UiSkeleton.Url.Address
import UiSkeleton.Url.Basic
import UiSkeleton.Url.Domain
import UiSkeleton.Url.Host
import UiSkeleton.Url.Percent
import UiSkeleton.Url.Punycode
import UiSkeleton.Url.Reader
