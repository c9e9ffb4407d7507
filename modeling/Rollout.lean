import Rollout.File.Fault
import Rollout.Text.Split
import Rollout.File.Path
import Rollout.Text.Utf8
import Rollout.File.Tree
import Rollout.Descriptor
import Rollout.Number.Word
import Rollout.Text.Blank
import Rollout.Text.Printable
import Rollout.Text.Quoted
import Rollout.Task
import Rollout.Text.Digit
import Rollout.Template
import Rollout.Compile
import Rollout.Text.Style
import Rollout.Error
import Rollout.Log
import Rollout.Report
import Rollout.Number.Binary64
import Rollout.Operation
import Rollout.Terminal
import Rollout.Step
import Rollout.Connector
import Rollout.Date
import Rollout.Backup
import Rollout.CommandLine.Argument
import Rollout.CommandLine.Usage
import Rollout.CommandLine.Fault
import Rollout.Text.Similarity
import Rollout.CommandLine.Reading
import Rollout.Copy
import Rollout.Descriptor.Parts
import Rollout.Json.Failure
import Rollout.Json.Cursor
import Rollout.Json.Numeral
import Rollout.Json.Quoted
import Rollout.Json.Decoder
import Rollout.Descriptor.Json
import Rollout.Yaml.Token
import Rollout.Yaml.Event
import Rollout.Yaml.Cursor
import Rollout.Yaml.Scalar
import Rollout.Yaml.Property
import Rollout.Yaml.Layout
import Rollout.Yaml.Document
import Rollout.Yaml.Decoder
import Rollout.Descriptor.Yaml
import Rollout.Descriptor.Load
import Rollout.Text.Order
import Rollout.File.Selection
import Rollout.Engine
import Rollout.File.Scratch
import Rollout.Shell.State
import Rollout.Shell.Pattern
import Rollout.Shell.Code
import Rollout.Shell.Read
import Rollout.Shell.Tool
import Rollout.Shell.Run
import Rollout.Local
import Rollout.Ssh.Channel
import Rollout.Ssh.Fault
import Rollout.Ssh.Network
import Rollout.Ssh.Login
import Rollout.Ssh.Connector
import Rollout.Ssh.Script
import Rollout.Outside
import Rollout.Password
import Rollout.Plan
import Rollout.Run
import Rollout.Program
import Rollout.Main
import Rollout.Script
import Rollout.Proofs.Step
import Rollout.Proofs.Outcome
import Rollout.Proofs.Sessions
import Rollout.Proofs.Composition
import Rollout.Proofs.Failure
import Rollout.Proofs.First
import Rollout.Proofs.Number
import Rollout.Proofs.Schedule
import Rollout.Proofs.Compilation
import Rollout.Proofs.Placeholders
import Rollout.Proofs.Substitution
import Rollout.Proofs.CompileErrors
import Rollout.Proofs.Recap
import Rollout.Proofs.ExitStatus
import Rollout.Proofs.LiteralShell
import Rollout.Proofs.Backups
import Rollout.Proofs.Words
import Rollout.Proofs.Classification
import Rollout.Proofs.Places
import Rollout.Proofs.LocalCopy
import Rollout.Proofs.LocalUpload
import Rollout.Proofs.Preview
import Rollout.Proofs.Alike
import Rollout.Proofs.Secrecy
import Rollout.Proofs.Utf8
import Rollout.Proofs.Answers
import Rollout.Proofs.Gate
import Rollout.Proofs.Written
import Rollout.Proofs.Value
import Rollout.Proofs.Scanning
import Rollout.Proofs.RoundTrip
import Rollout.Proofs.Pairs
import Rollout.Proofs.Parting
import Rollout.Proofs.Connections
import Rollout.Proofs.FilledWords
import Rollout.Proofs.BackupProtocol
import Rollout.Proofs.Listing
import Rollout.Proofs.Newest
import Rollout.Proofs.DirectoryUpload
import Rollout.Proofs.Limiting
import Rollout.Proofs.Edits
import Rollout.Proofs.Login
import Rollout.Proofs.Passing
import Rollout.Proofs.Judging
import Rollout.Proofs.Slots
import Rollout.Proofs.Schema
import Rollout.Proofs.Chronology
import Rollout.Proofs.DatedNames
import Rollout.Proofs.Copying
import Rollout.Proofs.Verbosity
import Rollout.Proofs.Colors
