import BenchRoster.Adapter
import BenchRoster.Alarm
import BenchRoster.Check
import BenchRoster.Checksum
import BenchRoster.CommandLine
import BenchRoster.CommandLine.Arguments
import BenchRoster.Config
import BenchRoster.Config.File
import BenchRoster.Config.Reading
import BenchRoster.Config.Suite
import BenchRoster.Decimal.Binary64
import BenchRoster.Decimal.Power
import BenchRoster.Decimal.Shortest
import BenchRoster.Decimal.Text
import BenchRoster.FileSystem
import BenchRoster.Finished
import BenchRoster.Format
import BenchRoster.Inspect
import BenchRoster.IoFault
import BenchRoster.Iterate
import BenchRoster.Json.Fault
import BenchRoster.Json.Reader
import BenchRoster.Json.Typed
import BenchRoster.Json.Value
import BenchRoster.Listing
import BenchRoster.Loader
import BenchRoster.Machine
import BenchRoster.Main
import BenchRoster.Mismatch
import BenchRoster.Name
import BenchRoster.Name.Exchange
import BenchRoster.Options
import BenchRoster.Options.Reading
import BenchRoster.Options.Writing
import BenchRoster.Path
import BenchRoster.Pattern
import BenchRoster.Pattern.Bracket
import BenchRoster.Pattern.CharSet
import BenchRoster.Pattern.Cursor
import BenchRoster.Pattern.Escape
import BenchRoster.Pattern.Fault
import BenchRoster.Pattern.Form
import BenchRoster.Pattern.Meaning
import BenchRoster.Pattern.Property
import BenchRoster.Pattern.Property.Names
import BenchRoster.Pattern.Property.Table
import BenchRoster.Pattern.Reading
import BenchRoster.Pattern.Size
import BenchRoster.Pipes
import BenchRoster.Process
import BenchRoster.Proofs.Search
import BenchRoster.Proofs.Sweep
import BenchRoster.Recorder
import BenchRoster.Rejection
import BenchRoster.Resolver
import BenchRoster.Resolver.Lookup
import BenchRoster.Resolver.Tree
import BenchRoster.Roster
import BenchRoster.Script.StringLiteral
import BenchRoster.Shell.Arithmetic
import BenchRoster.Shell.Builtin
import BenchRoster.Shell.Builtin.Basic
import BenchRoster.Shell.Builtin.Control
import BenchRoster.Shell.Builtin.Directory
import BenchRoster.Shell.Builtin.Meaning
import BenchRoster.Shell.Builtin.Permission
import BenchRoster.Shell.Builtin.Settings
import BenchRoster.Shell.Builtin.Transfer
import BenchRoster.Shell.Builtin.Variables
import BenchRoster.Shell.Choice
import BenchRoster.Shell.Condition
import BenchRoster.Shell.Context
import BenchRoster.Shell.Environment
import BenchRoster.Shell.Expansion
import BenchRoster.Shell.Fields
import BenchRoster.Shell.Frame
import BenchRoster.Shell.Glob
import BenchRoster.Shell.Program
import BenchRoster.Shell.Reading
import BenchRoster.Shell.Redirecting
import BenchRoster.Shell.Running
import BenchRoster.Shell.Script
import BenchRoster.Shell.Signal
import BenchRoster.Shell.State
import BenchRoster.Shell.Token
import BenchRoster.Suite
import BenchRoster.Table
import BenchRoster.Text.Blank
import BenchRoster.Text.Digits
import BenchRoster.Text.Letter
import BenchRoster.Text.Lines
import BenchRoster.Text.Octets
import BenchRoster.Text.Printable
import BenchRoster.Text.Quoted
import BenchRoster.Text.Utf8
import BenchRoster.Timer
import BenchRoster.Tool
import BenchRoster.Tool.Amount
import BenchRoster.Tool.Basic
import BenchRoster.Tool.Cat
import BenchRoster.Tool.Count
import BenchRoster.Tool.Echo
import BenchRoster.Tool.Edit
import BenchRoster.Tool.Edit.Progress
import BenchRoster.Tool.Edit.Reading
import BenchRoster.Tool.Edit.Script
import BenchRoster.Tool.Expression
import BenchRoster.Tool.Format
import BenchRoster.Tool.Head
import BenchRoster.Tool.Numeral
import BenchRoster.Tool.Options
import BenchRoster.Tool.Quoting
import BenchRoster.Tool.Tail
import BenchRoster.Tool.Translate
import BenchRoster.Transform
import BenchRoster.Workload
import BenchRoster.World
import BenchRoster.Yaml.Cursor
import BenchRoster.Yaml.Decode
import BenchRoster.Yaml.Document
import BenchRoster.Yaml.Event
import BenchRoster.Yaml.Events
import BenchRoster.Yaml.Fault
import BenchRoster.Yaml.Lexeme.Block
import BenchRoster.Yaml.Lexeme.Folding
import BenchRoster.Yaml.Lexeme.Plain
import BenchRoster.Yaml.Lexeme.Quoted
import BenchRoster.Yaml.Lexeme.Tag
import BenchRoster.Yaml.Plain
import BenchRoster.Yaml.Token
import BenchRoster.Yaml.Tokens
import BenchRoster.Proofs.Isolation
import BenchRoster.Proofs.Trace
import BenchRoster.Proofs.Session
import BenchRoster.Proofs.Binding
import BenchRoster.Proofs.OptionsReadBack
import BenchRoster.Proofs.Verdicts
import BenchRoster.Proofs.Lifetime
import BenchRoster.Proofs.Conversation
import BenchRoster.Proofs.Definition
import BenchRoster.Proofs.Diagnostics
import BenchRoster.Proofs.TimedConfig
import BenchRoster.Proofs.Drafts
import BenchRoster.Proofs.Lookup
import BenchRoster.Proofs.Chains
import BenchRoster.Proofs.Inlining
import BenchRoster.Proofs.Literals
import BenchRoster.Proofs.Nesting
import BenchRoster.Proofs.Decoding
import BenchRoster.Proofs.Rebasing
import BenchRoster.Proofs.Names
import BenchRoster.Proofs.Totals
import BenchRoster.Proofs.Listeners
import BenchRoster.Proofs.Defaults
import BenchRoster.Proofs.Complaints
import BenchRoster.Proofs.Listings
import BenchRoster.Proofs.DryRuns
import BenchRoster.Proofs.OptionsEdits
import BenchRoster.Proofs.Repeats
