import SampleLibrary.Analyzer.Basic
import SampleLibrary.Analyzer.Cached
import SampleLibrary.Analyzer.Preset
import SampleLibrary.Cache
import SampleLibrary.CommandLine.Arguments
import SampleLibrary.CommandLine.Grammar
import SampleLibrary.CommandLine.Help
import SampleLibrary.CommandLine.Run
import SampleLibrary.CommandLine.Terminal
import SampleLibrary.Config.Basic
import SampleLibrary.Config.Environment
import SampleLibrary.Config.Loading
import SampleLibrary.Config.Tree
import SampleLibrary.Decimal.Binary
import SampleLibrary.Decimal.Places
import SampleLibrary.Decimal.Reading
import SampleLibrary.Decimal.Rounding
import SampleLibrary.Decimal.Shortest
import SampleLibrary.Digest.Md5
import SampleLibrary.Field
import SampleLibrary.FileInfo
import SampleLibrary.Files.Basic
import SampleLibrary.Files.Path
import SampleLibrary.FullText
import SampleLibrary.Library.Alias
import SampleLibrary.Library.Basic
import SampleLibrary.Library.Blob
import SampleLibrary.Library.Cleanup
import SampleLibrary.Library.Import
import SampleLibrary.Library.Search
import SampleLibrary.Main
import SampleLibrary.Metadata.Basic
import SampleLibrary.Metadata.Json
import SampleLibrary.Metadata.Key
import SampleLibrary.Metadata.View
import SampleLibrary.Metrics
import SampleLibrary.Pattern.Matching
import SampleLibrary.Pattern.Reading
import SampleLibrary.Pattern.Syntax
import SampleLibrary.Query.Basic
import SampleLibrary.Query.Completion
import SampleLibrary.Query.Condition
import SampleLibrary.Query.Statement
import SampleLibrary.Query.Words
import SampleLibrary.Rewrite.Category
import SampleLibrary.Rewrite.Rule
import SampleLibrary.Rewrite.Template
import SampleLibrary.Storage.Archive
import SampleLibrary.Storage.Cell
import SampleLibrary.Storage.Edit
import SampleLibrary.Storage.Search
import SampleLibrary.Storage.Tables
import SampleLibrary.Tag
import SampleLibrary.Text.Case
import SampleLibrary.Text.Case.Table
import SampleLibrary.Text.Class
import SampleLibrary.Text.Class.Alphanumeric
import SampleLibrary.Text.Class.Number
import SampleLibrary.Text.Printable.Table
import SampleLibrary.Text.Quoted
import SampleLibrary.Text.Ranges
import SampleLibrary.Text.Split
import SampleLibrary.Toml.Document
import SampleLibrary.Toml.Numbers
import SampleLibrary.Toml.Strings
import SampleLibrary.Toml.Tables
import SampleLibrary.Toml.Values
import SampleLibrary.Value
import SampleLibrary.Verifier.Basic
import SampleLibrary.Verifier.BlobFiles
import SampleLibrary.Verifier.Items
import SampleLibrary.Verifier.Links
import SampleLibrary.Verifier.Problem
import SampleLibrary.Verifier.Report
import SampleLibrary.Verifier.Run
import SampleLibrary.Proofs.Cache.Recency
import SampleLibrary.Proofs.Files.Changes
import SampleLibrary.Proofs.Library.Counters
import SampleLibrary.Proofs.Files.Removing
import SampleLibrary.Proofs.Verifier.CleanRuns
import SampleLibrary.Proofs.Verifier.Convergence
import SampleLibrary.Proofs.Storage.Edits
import SampleLibrary.Proofs.Library.Corruption
import SampleLibrary.Proofs.Library.BlobStore
import SampleLibrary.Proofs.Library.ReadingBack
import SampleLibrary.Proofs.Library.CustomValues
import SampleLibrary.Proofs.Query.RoundTrip
import SampleLibrary.Proofs.Query.Completing
import SampleLibrary.Proofs.Analyzer.Caching
import SampleLibrary.Proofs.Library.Scheduling
import SampleLibrary.Proofs.Verifier.Approved
import SampleLibrary.Proofs.Verifier.CountersAfter
import SampleLibrary.Proofs.Verifier.Settled
import SampleLibrary.Proofs.Verifier.Effects
import SampleLibrary.Proofs.Query.TextIndependence
import SampleLibrary.Proofs.Library.TagHierarchy
import SampleLibrary.Proofs.Library.CleanLibraries
import SampleLibrary.Proofs.Rewrite.Confinement
import SampleLibrary.Proofs.Query.Grammar
import SampleLibrary.Proofs.Library.Records
import SampleLibrary.Proofs.Library.Documents
import SampleLibrary.Proofs.Rewrite.DefaultRules
import SampleLibrary.Proofs.Query.Joining
import SampleLibrary.Proofs.Query.Accepting
import SampleLibrary.Proofs.Rewrite.Categories
import SampleLibrary.Proofs.Rewrite.Templates
import SampleLibrary.Proofs.Rewrite.Substitutions
import SampleLibrary.Proofs.Library.Batches
import SampleLibrary.Proofs.Verifier.KeptAnswers
import SampleLibrary.Proofs.Verifier.Progression
import SampleLibrary.Proofs.Query.Aliases
import SampleLibrary.Proofs.Library.AliasNames
import SampleLibrary.Proofs.Query.SearchTerms
import SampleLibrary.Proofs.Query.ReadingWords
import SampleLibrary.Proofs.Library.Closing
import SampleLibrary.Proofs.Languages
import SampleLibrary.Proofs.Files.Resolving
import SampleLibrary.Proofs.Library.Assignment
