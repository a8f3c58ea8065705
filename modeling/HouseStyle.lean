import HouseStyle.Analysis
import HouseStyle.Binary64
import HouseStyle.CommandLine.Basic
import HouseStyle.CommandLine.Parse
import HouseStyle.CommandLine.Run
import HouseStyle.CommandLine.Texts
import HouseStyle.Compiler
import HouseStyle.FileTree.Basic
import HouseStyle.FileTree.Error
import HouseStyle.Finding
import HouseStyle.Host.Basic
import HouseStyle.Host.Inspection
import HouseStyle.Host.Process
import HouseStyle.Json.Basic
import HouseStyle.Json.Parse
import HouseStyle.Log
import HouseStyle.Main
import HouseStyle.Path
import HouseStyle.Proofs.Appending
import HouseStyle.Proofs.Assignment
import HouseStyle.Proofs.CodeLines
import HouseStyle.Proofs.Collection
import HouseStyle.Proofs.CommentTracking
import HouseStyle.Proofs.CompactReport
import HouseStyle.Proofs.Compilation
import HouseStyle.Proofs.Decoding
import HouseStyle.Proofs.DefinitionGrammar
import HouseStyle.Proofs.Diagnostics
import HouseStyle.Proofs.DisplayedPath
import HouseStyle.Proofs.Distinct
import HouseStyle.Proofs.DocumentationWindow
import HouseStyle.Proofs.DottedSearch
import HouseStyle.Proofs.ExitStatus
import HouseStyle.Proofs.FileByFile
import HouseStyle.Proofs.Finding
import HouseStyle.Proofs.FindingOrder
import HouseStyle.Proofs.Grouping
import HouseStyle.Proofs.HeaderFields
import HouseStyle.Proofs.IndentUnit
import HouseStyle.Proofs.InsertedCheck
import HouseStyle.Proofs.Inspection
import HouseStyle.Proofs.JsonRoundTrip
import HouseStyle.Proofs.LetterCase
import HouseStyle.Proofs.Limits
import HouseStyle.Proofs.LineEndings
import HouseStyle.Proofs.LineView
import HouseStyle.Proofs.Lines
import HouseStyle.Proofs.Locations
import HouseStyle.Proofs.Operators
import HouseStyle.Proofs.OuterBlanks
import HouseStyle.Proofs.PathOrder
import HouseStyle.Proofs.PathSpelling
import HouseStyle.Proofs.Reader
import HouseStyle.Proofs.Relisting
import HouseStyle.Proofs.ReportJson
import HouseStyle.Proofs.RuleFindings
import HouseStyle.Proofs.RuleSelection
import HouseStyle.Proofs.Scan
import HouseStyle.Proofs.SettingsEdits
import HouseStyle.Proofs.StartingSettings
import HouseStyle.Proofs.Text
import HouseStyle.Proofs.TextReport
import HouseStyle.Proofs.Trackers
import HouseStyle.Proofs.Trim
import HouseStyle.Proofs.WrittenFiles
import HouseStyle.Report.Basic
import HouseStyle.Report.Format
import HouseStyle.Report.Json
import HouseStyle.Report.Text
import HouseStyle.Rule.Basic
import HouseStyle.Rule.Catalog
import HouseStyle.Rule.Compilation
import HouseStyle.Rule.ErrorHandling
import HouseStyle.Rule.FunctionDoc
import HouseStyle.Rule.Header
import HouseStyle.Rule.HeaderGuard
import HouseStyle.Rule.Indentation
import HouseStyle.Search.Basic
import HouseStyle.Search.Ignore
import HouseStyle.Search.IgnorePattern
import HouseStyle.Search.Pattern
import HouseStyle.Search.UserIgnore
import HouseStyle.Settings.Basic
import HouseStyle.Settings.Document
import HouseStyle.Settings.Location
import HouseStyle.Shell.Arithmetic
import HouseStyle.Shell.Awk.Basic
import HouseStyle.Shell.Awk.Format
import HouseStyle.Shell.Awk.Parts
import HouseStyle.Shell.Awk.Reading
import HouseStyle.Shell.Awk.Run
import HouseStyle.Shell.Awk.Scanner
import HouseStyle.Shell.Awk.Spelling
import HouseStyle.Shell.Awk.Table
import HouseStyle.Shell.Awk.Token
import HouseStyle.Shell.Awk.Value
import HouseStyle.Shell.Builtin
import HouseStyle.Shell.Calendar
import HouseStyle.Shell.Command
import HouseStyle.Shell.Condition
import HouseStyle.Shell.Control
import HouseStyle.Shell.DateFormat
import HouseStyle.Shell.DateText
import HouseStyle.Shell.Decimal
import HouseStyle.Shell.Difference
import HouseStyle.Shell.DifferenceText
import HouseStyle.Shell.Directory
import HouseStyle.Shell.Editing.Basic
import HouseStyle.Shell.Editing.Editor
import HouseStyle.Shell.Editing.Script
import HouseStyle.Shell.Expansion
import HouseStyle.Shell.Extended
import HouseStyle.Shell.Fields
import HouseStyle.Shell.FileQuery
import HouseStyle.Shell.Input
import HouseStyle.Shell.Limit
import HouseStyle.Shell.Lookup
import HouseStyle.Shell.Machine
import HouseStyle.Shell.Mode
import HouseStyle.Shell.Options
import HouseStyle.Shell.Pattern
import HouseStyle.Shell.Printing
import HouseStyle.Shell.Program
import HouseStyle.Shell.Quotation
import HouseStyle.Shell.Reading
import HouseStyle.Shell.Redirection
import HouseStyle.Shell.Regex.BareClass
import HouseStyle.Shell.Regex.Basic
import HouseStyle.Shell.Regex.Perl
import HouseStyle.Shell.Regex.Plan
import HouseStyle.Shell.Regex.Spelling
import HouseStyle.Shell.Run
import HouseStyle.Shell.Session
import HouseStyle.Shell.Signal
import HouseStyle.Shell.Utility
import HouseStyle.Shell.Utility.Arguments
import HouseStyle.Shell.Utility.Backup
import HouseStyle.Shell.Utility.Basic
import HouseStyle.Shell.Utility.Calculation
import HouseStyle.Shell.Utility.Characters
import HouseStyle.Shell.Utility.Columns
import HouseStyle.Shell.Utility.Comparison
import HouseStyle.Shell.Utility.Copying
import HouseStyle.Shell.Utility.Counting
import HouseStyle.Shell.Utility.Creation
import HouseStyle.Shell.Utility.Dates
import HouseStyle.Shell.Utility.Details
import HouseStyle.Shell.Utility.Differences
import HouseStyle.Shell.Utility.Duration
import HouseStyle.Shell.Utility.Editing
import HouseStyle.Shell.Utility.Extract
import HouseStyle.Shell.Utility.Files
import HouseStyle.Shell.Utility.Finding
import HouseStyle.Shell.Utility.Folding
import HouseStyle.Shell.Utility.Formatting
import HouseStyle.Shell.Utility.Joining
import HouseStyle.Shell.Utility.Listing
import HouseStyle.Shell.Utility.Merging
import HouseStyle.Shell.Utility.Moving
import HouseStyle.Shell.Utility.Names
import HouseStyle.Shell.Utility.Numbering
import HouseStyle.Shell.Utility.Numbers
import HouseStyle.Shell.Utility.Order
import HouseStyle.Shell.Utility.Permission
import HouseStyle.Shell.Utility.Removal
import HouseStyle.Shell.Utility.Repeats
import HouseStyle.Shell.Utility.Reversal
import HouseStyle.Shell.Utility.Running
import HouseStyle.Shell.Utility.Scanning
import HouseStyle.Shell.Utility.Search
import HouseStyle.Shell.Utility.Sorting
import HouseStyle.Shell.Utility.Stream
import HouseStyle.Shell.Utility.Surroundings
import HouseStyle.Shell.Utility.Temporary
import HouseStyle.Shell.Utility.Testing
import HouseStyle.Shell.Utility.Transfer
import HouseStyle.Shell.Values
import HouseStyle.Shell.Workstation
import HouseStyle.Source.Basic
import HouseStyle.Source.Definition
import HouseStyle.Source.Scan
import HouseStyle.Text.Blank
import HouseStyle.Text.Casing
import HouseStyle.Text.Digits
import HouseStyle.Text.Find
import HouseStyle.Text.Lines
import HouseStyle.Text.Lower
import HouseStyle.Text.Marks
import HouseStyle.Text.Reader
import HouseStyle.Text.Utf8
import HouseStyle.Text.Word
import HouseStyle.Toml.Document
import HouseStyle.Toml.Reserved
import HouseStyle.Toml.Scalar
import HouseStyle.Toml.Value
