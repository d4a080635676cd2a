import FeatureSurvey.Batch.Files
import FeatureSurvey.Batch.Layout
import FeatureSurvey.Batch.Package
import FeatureSurvey.Batch.Provider
import FeatureSurvey.Batch.Run
import FeatureSurvey.Batch.Settings
import FeatureSurvey.Batch.Template
import FeatureSurvey.Batch.Whitelist
import FeatureSurvey.Bisect.Feature
import FeatureSurvey.Bisect.Search
import FeatureSurvey.BuildLog.CompilerLines
import FeatureSurvey.BuildLog.Definitions
import FeatureSurvey.BuildLog.Parser
import FeatureSurvey.Calendar.Date
import FeatureSurvey.CommandLine.Arguments
import FeatureSurvey.CommandLine.Checks
import FeatureSurvey.CommandLine.Commands
import FeatureSurvey.CommandLine.Program
import FeatureSurvey.Config.Basic
import FeatureSurvey.Config.Decode
import FeatureSurvey.Config.Document
import FeatureSurvey.Config.Legacy
import FeatureSurvey.Config.Load
import FeatureSurvey.Config.Validate
import FeatureSurvey.Data.Fields
import FeatureSurvey.Data.Scalar
import FeatureSurvey.Data.Source
import FeatureSurvey.Data.Table
import FeatureSurvey.Data.Value
import FeatureSurvey.Decimal.Shortest
import FeatureSurvey.Detect.Basic
import FeatureSurvey.Detect.Inputs
import FeatureSurvey.Detect.Query
import FeatureSurvey.Detect.Session
import FeatureSurvey.Detector.Hardening
import FeatureSurvey.Detector.LanguageStandard
import FeatureSurvey.Detector.LineDetectors
import FeatureSurvey.Detector.Patterns
import FeatureSurvey.Detector.PositionIndependence
import FeatureSurvey.Detector.Report
import FeatureSurvey.Detector.SourcePattern
import FeatureSurvey.Detector.Version
import FeatureSurvey.Error
import FeatureSurvey.Failure
import FeatureSurvey.Feature.Record
import FeatureSurvey.Feature.Value
import FeatureSurvey.Git.WorkTree
import FeatureSurvey.Host.Basic
import FeatureSurvey.Host.Command
import FeatureSurvey.Host.Job
import FeatureSurvey.Host.Journal
import FeatureSurvey.Host.OsError
import FeatureSurvey.Host.Path
import FeatureSurvey.Json.Number
import FeatureSurvey.Json.Printer
import FeatureSurvey.Json.Reader
import FeatureSurvey.Main
import FeatureSurvey.Pattern.Glob
import FeatureSurvey.Pattern.Regex
import FeatureSurvey.Pattern.RegexReader
import FeatureSurvey.Proofs.Batch.Address
import FeatureSurvey.Proofs.Batch.Independence
import FeatureSurvey.Proofs.Batch.Introductions
import FeatureSurvey.Proofs.Batch.Leftovers
import FeatureSurvey.Proofs.Batch.Records
import FeatureSurvey.Proofs.Batch.ResultFile
import FeatureSurvey.Proofs.Batch.ScratchHost
import FeatureSurvey.Proofs.Batch.Sessions
import FeatureSurvey.Proofs.Batch.Substitution
import FeatureSurvey.Proofs.Batch.TreeHost
import FeatureSurvey.Proofs.Batch.Turns
import FeatureSurvey.Proofs.Batch.View
import FeatureSurvey.Proofs.Bisect.Beside
import FeatureSurvey.Proofs.Bisect.LinearScan
import FeatureSurvey.Proofs.Bisect.Log
import FeatureSurvey.Proofs.Bisect.Questions
import FeatureSurvey.Proofs.Bisect.Restore
import FeatureSurvey.Proofs.Bisect.SameAnswer
import FeatureSurvey.Proofs.BuildLog.Definitions
import FeatureSurvey.Proofs.BuildLog.LinkLines
import FeatureSurvey.Proofs.BuildLog.Snapshot
import FeatureSurvey.Proofs.BuildLog.Stages
import FeatureSurvey.Proofs.Config.Names
import FeatureSurvey.Proofs.Config.Spelling
import FeatureSurvey.Proofs.Data.Delivery
import FeatureSurvey.Proofs.Data.Table
import FeatureSurvey.Proofs.Data.Written
import FeatureSurvey.Proofs.Detector.Banner
import FeatureSurvey.Proofs.Detector.Hardening
import FeatureSurvey.Proofs.Detector.LanguageStandard
import FeatureSurvey.Proofs.Detector.PositionIndependence
import FeatureSurvey.Proofs.Detector.Report
import FeatureSurvey.Proofs.Detector.SourcePattern
import FeatureSurvey.Proofs.Detector.VersionNumber
import FeatureSurvey.Proofs.Detector.VersionOrder
import FeatureSurvey.Proofs.Feature.Form
import FeatureSurvey.Proofs.Feature.History
import FeatureSurvey.Proofs.Git.CommitGraph
import FeatureSurvey.Proofs.Git.Failing
import FeatureSurvey.Proofs.Git.Log
import FeatureSurvey.Proofs.Git.Range
import FeatureSurvey.Proofs.Git.Repository
import FeatureSurvey.Proofs.Git.Workshop
import FeatureSurvey.Proofs.Host.Path
import FeatureSurvey.Proofs.Json.Grammar
import FeatureSurvey.Proofs.Json.RoundTrip
import FeatureSurvey.Proofs.Json.Scalars
import FeatureSurvey.Proofs.Log.BuiltIn
import FeatureSurvey.Proofs.Log.Considerate
import FeatureSurvey.Proofs.Log.Keeping
import FeatureSurvey.Proofs.Log.Recorded
import FeatureSurvey.Proofs.Registry.BuiltIn
import FeatureSurvey.Proofs.Registry.Sharing
import FeatureSurvey.Proofs.Resolver.Assignment
import FeatureSurvey.Proofs.Resolver.Claims
import FeatureSurvey.Proofs.Rules.Copy
import FeatureSurvey.Proofs.Rules.FileHost
import FeatureSurvey.Proofs.Rules.Flag
import FeatureSurvey.Proofs.Run.Alone
import FeatureSurvey.Proofs.Run.Building
import FeatureSurvey.Proofs.Run.Calls
import FeatureSurvey.Proofs.Run.Composition
import FeatureSurvey.Proofs.Run.Deadline
import FeatureSurvey.Proofs.Run.Exchanges
import FeatureSurvey.Proofs.Run.Failing
import FeatureSurvey.Proofs.Run.Kinds
import FeatureSurvey.Proofs.Run.Matching
import FeatureSurvey.Proofs.Run.Parallel
import FeatureSurvey.Proofs.Run.Period
import FeatureSurvey.Proofs.Run.Phases
import FeatureSurvey.Proofs.Run.Standstill
import FeatureSurvey.Proofs.Run.Traced
import FeatureSurvey.Proofs.Sandbox.Directories
import FeatureSurvey.Proofs.Sandbox.Ways
import FeatureSurvey.Proofs.Text.Lines
import FeatureSurvey.Proofs.Text.Lowercase
import FeatureSurvey.Proofs.Text.Pieces
import FeatureSurvey.Proofs.Text.Plain
import FeatureSurvey.Proofs.Text.Trim
import FeatureSurvey.Proofs.Text.Words
import FeatureSurvey.Proofs.Tool.Arguments
import FeatureSurvey.Proofs.Tool.Operands
import FeatureSurvey.Registry.Basic
import FeatureSurvey.Registry.Builder
import FeatureSurvey.Registry.BuiltIn
import FeatureSurvey.Registry.Rehearsal
import FeatureSurvey.Resolver.Assign
import FeatureSurvey.Rules.Parser
import FeatureSurvey.Rules.VariableLine
import FeatureSurvey.Run.Runner
import FeatureSurvey.Sandbox.Host
import FeatureSurvey.Sandbox.Start
import FeatureSurvey.Sandbox.Tree
import FeatureSurvey.Sandbox.Walk
import FeatureSurvey.Sandbox.World
import FeatureSurvey.Shell.Arithmetic
import FeatureSurvey.Shell.Eval
import FeatureSurvey.Shell.Fields
import FeatureSurvey.Shell.Machine
import FeatureSurvey.Shell.Reader
import FeatureSurvey.Shell.Script
import FeatureSurvey.Text.Blank
import FeatureSurvey.Text.Bytes
import FeatureSurvey.Text.Integer
import FeatureSurvey.Text.Lines
import FeatureSurvey.Text.Lowercase
import FeatureSurvey.Text.Search
import FeatureSurvey.Text.Utf8
import FeatureSurvey.Text.Word
import FeatureSurvey.Tool.Run
import FeatureSurvey.Utility.Basic
import FeatureSurvey.Utility.Files
import FeatureSurvey.Utility.Find
import FeatureSurvey.Utility.Grep
import FeatureSurvey.Utility.Named
import FeatureSurvey.Utility.Printing
import FeatureSurvey.Utility.Sed
import FeatureSurvey.Utility.Text
import FeatureSurvey.Yaml.Cursor
import FeatureSurvey.Yaml.Folding
import FeatureSurvey.Yaml.Node
import FeatureSurvey.Yaml.Reader
import FeatureSurvey.Yaml.Scanner
import FeatureSurvey.Yaml.Token
