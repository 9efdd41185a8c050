import LaunchKit.Calendar
import LaunchKit.CallLog.Records
import LaunchKit.CallLog.Wording
import LaunchKit.CommandLine.Bash
import LaunchKit.CommandLine.Style
import LaunchKit.CommandLine.Windows
import LaunchKit.Console.Highlight
import LaunchKit.Console.Line
import LaunchKit.Console.Paint
import LaunchKit.Diagnostics
import LaunchKit.Environment
import LaunchKit.ErrorTally
import LaunchKit.Failure.Basic
import LaunchKit.Failure.Build
import LaunchKit.Failure.Coding
import LaunchKit.Failure.Kind
import LaunchKit.Failure.Source
import LaunchKit.Failure.System
import LaunchKit.Failure.Trace
import LaunchKit.FileTree.Basic
import LaunchKit.FileTree.Delete
import LaunchKit.Log
import LaunchKit.Number.Basic
import LaunchKit.Number.Binary64
import LaunchKit.Number.Decimal
import LaunchKit.Number.Numeral
import LaunchKit.Path.Convert
import LaunchKit.Path.Drive
import LaunchKit.Path.Join
import LaunchKit.Path.Normal
import LaunchKit.Path.Parts
import LaunchKit.Path.Relative
import LaunchKit.Proofs.CallLog.Logged
import LaunchKit.Proofs.CallLog.OneLine
import LaunchKit.Proofs.CallLog.Transparent
import LaunchKit.Proofs.CommandLine.Bash
import LaunchKit.Proofs.CommandLine.Distinct
import LaunchKit.Proofs.CommandLine.Fields
import LaunchKit.Proofs.CommandLine.Positions
import LaunchKit.Proofs.CommandLine.Quoted
import LaunchKit.Proofs.CommandLine.Windows
import LaunchKit.Proofs.Console.DrivePaths
import LaunchKit.Proofs.Console.Durations
import LaunchKit.Proofs.Console.Highlighted
import LaunchKit.Proofs.Console.Line
import LaunchKit.Proofs.Console.Torn
import LaunchKit.Proofs.Console.Visible
import LaunchKit.Proofs.ErrorTally.Runs
import LaunchKit.Proofs.Failure.Described
import LaunchKit.Proofs.FileTree.Removed
import LaunchKit.Proofs.FileTree.Sound
import LaunchKit.Proofs.Number.ReadBack
import LaunchKit.Proofs.Number.Rounded
import LaunchKit.Proofs.Number.Visible
import LaunchKit.Proofs.Outcome
import LaunchKit.Proofs.Path.Absolute
import LaunchKit.Proofs.Path.Divided
import LaunchKit.Proofs.Path.Folded
import LaunchKit.Proofs.Path.Form
import LaunchKit.Proofs.Path.FromDirectory
import LaunchKit.Proofs.Path.Joined
import LaunchKit.Proofs.Path.Mismatch
import LaunchKit.Proofs.Path.Prepared
import LaunchKit.Proofs.Path.Qualified
import LaunchKit.Proofs.Path.Recased
import LaunchKit.Proofs.Path.Reduced
import LaunchKit.Proofs.Path.Relative
import LaunchKit.Proofs.Path.Repeated
import LaunchKit.Proofs.Path.Resolve
import LaunchKit.Proofs.Path.Roots
import LaunchKit.Proofs.Path.Segments
import LaunchKit.Proofs.Path.Shapes
import LaunchKit.Proofs.Path.Shares
import LaunchKit.Proofs.Path.Shortest
import LaunchKit.Proofs.Path.Unrooted
import LaunchKit.Proofs.Server.Creation
import LaunchKit.Proofs.Server.LogLevels
import LaunchKit.Proofs.Session.Answers
import LaunchKit.Proofs.Session.Deletions
import LaunchKit.Proofs.Session.History
import LaunchKit.Proofs.Session.Variables
import LaunchKit.Proofs.Settings.Loaded
import LaunchKit.Proofs.Template.Shown
import LaunchKit.Proofs.Text.Escaped
import LaunchKit.Proofs.Text.Lowered
import LaunchKit.Proofs.Text.Raw
import LaunchKit.Proofs.Text.Recased
import LaunchKit.Proofs.Tools.CaseVariants
import LaunchKit.Proofs.Tools.ErrorAnswers
import LaunchKit.Proofs.Value.Escaped
import LaunchKit.Proofs.Value.Written
import LaunchKit.Server.Handlers
import LaunchKit.Server.Launch
import LaunchKit.Server.LogNames
import LaunchKit.Server.LogSetup
import LaunchKit.Session
import LaunchKit.Settings
import LaunchKit.Template.Basic
import LaunchKit.Template.Expand
import LaunchKit.Text.Basic
import LaunchKit.Text.Blank
import LaunchKit.Text.Case
import LaunchKit.Text.CaseTable
import LaunchKit.Text.CodeSet
import LaunchKit.Text.DecimalDigit
import LaunchKit.Text.Letter
import LaunchKit.Text.Printable
import LaunchKit.Text.Quoted
import LaunchKit.Text.Raw
import LaunchKit.Tools
import LaunchKit.Value.Basic
import LaunchKit.Value.Json
import LaunchKit.Value.Literal
