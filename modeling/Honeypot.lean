import Honeypot.Address.Basic
import Honeypot.Address.Hardware
import Honeypot.Address.V4
import Honeypot.Address.V6
import Honeypot.Assoc
import Honeypot.Calendar
import Honeypot.Clock
import Honeypot.CommandLine.Console
import Honeypot.CommandLine.Diagnostics
import Honeypot.CommandLine.Grammar
import Honeypot.CommandLine.Launch
import Honeypot.CommandLine.Marks
import Honeypot.CommandLine.Pages
import Honeypot.CommandLine.Request
import Honeypot.Config
import Honeypot.Draws
import Honeypot.Events.Directory
import Honeypot.Events.Journal
import Honeypot.Events.Ledger
import Honeypot.Events.Log
import Honeypot.Events.Record
import Honeypot.Events.Transcript
import Honeypot.Fault
import Honeypot.FileSystem.ConfigText
import Honeypot.FileSystem.Hardware
import Honeypot.FileSystem.Layout
import Honeypot.FileSystem.Logs
import Honeypot.FileSystem.Node
import Honeypot.FileSystem.Reading
import Honeypot.FileSystem.Tree
import Honeypot.FileSystem.View
import Honeypot.Intel.Client
import Honeypot.Intel.Reply
import Honeypot.Intel.Window
import Honeypot.Json.Display
import Honeypot.Json.Limits
import Honeypot.Json.Reader
import Honeypot.Json.Value
import Honeypot.Json.Writer
import Honeypot.Main
import Honeypot.Metrics.Collector
import Honeypot.Metrics.Exposition
import Honeypot.Number.Fixed
import Honeypot.Number.Parts
import Honeypot.Number.Reading
import Honeypot.Number.Shortest
import Honeypot.Number.Sum
import Honeypot.Path
import Honeypot.Persona.Basic
import Honeypot.Persona.Catalogue
import Honeypot.Proofs.FileSystem.Changes
import Honeypot.Proofs.FileSystem.Coherence
import Honeypot.Proofs.FileSystem.OneTree
import Honeypot.Proofs.FileSystem.Shape
import Honeypot.Proofs.Path
import Honeypot.Proofs.Runs
import Honeypot.Proofs.Session.AfterClose
import Honeypot.Proofs.Session.Downloads
import Honeypot.Proofs.Session.Handing
import Honeypot.Proofs.Session.Moves
import Honeypot.Proofs.Session.Telling
import Honeypot.Proofs.Shell.Fetching
import Honeypot.Random
import Honeypot.Regex.Basic
import Honeypot.Regex.CharSet
import Honeypot.Regex.Escape
import Honeypot.Regex.Parser
import Honeypot.Regex.Progress
import Honeypot.Registry
import Honeypot.Service
import Honeypot.Session.Basic
import Honeypot.Session.Channel
import Honeypot.Session.Course
import Honeypot.Session.Scene
import Honeypot.Session.Station
import Honeypot.Shell.Changes
import Honeypot.Shell.Command
import Honeypot.Shell.Context
import Honeypot.Shell.Downloads
import Honeypot.Shell.Environment
import Honeypot.Shell.Expansion
import Honeypot.Shell.Glob
import Honeypot.Shell.Identity
import Honeypot.Shell.Interpreter
import Honeypot.Shell.Invocation
import Honeypot.Shell.Line
import Honeypot.Shell.Listing
import Honeypot.Shell.Login
import Honeypot.Shell.Mode
import Honeypot.Shell.Network
import Honeypot.Shell.Probes
import Honeypot.Shell.Processes
import Honeypot.Shell.Quantity
import Honeypot.Shell.Search
import Honeypot.Shell.Size
import Honeypot.Shell.System
import Honeypot.Terminal
import Honeypot.Text.Basic
import Honeypot.Text.Blank
import Honeypot.Text.Case
import Honeypot.Text.CaseTable
import Honeypot.Text.Digit
import Honeypot.Text.DigitTable
import Honeypot.Text.HiddenTable
import Honeypot.Text.Identifier
import Honeypot.Text.IdentifierTable
import Honeypot.Text.Lines
import Honeypot.Text.Name
import Honeypot.Text.NameTable
import Honeypot.Text.Printable
import Honeypot.Text.Word
import Honeypot.Text.WordTable
import Honeypot.Url
import Honeypot.Proofs.FileSystem.Absence
import Honeypot.Proofs.Regex.Room
import Honeypot.Proofs.Shell.Room
import Honeypot.Proofs.Shell.Segments
import Honeypot.Proofs.Shell.Bars
import Honeypot.Proofs.Shell.Sequence
import Honeypot.Proofs.Shell.Superuser
import Honeypot.Proofs.Registry
import Honeypot.Proofs.Session.Standing
import Honeypot.Proofs.Service.Runs
import Honeypot.Proofs.Service.Headcount
import Honeypot.Proofs.Service.Progress
import Honeypot.Proofs.Clock
import Honeypot.Proofs.Intel.Window
import Honeypot.Proofs.Intel.Limits
import Honeypot.Proofs.Intel.Reading
import Honeypot.Proofs.Intel.Keeping
import Honeypot.Proofs.Shell.Tails
import Honeypot.Proofs.Shell.Programs
import Honeypot.Proofs.Shell.Unknown
import Honeypot.Proofs.Shell.Looking
import Honeypot.Proofs.Shell.Scripts
import Honeypot.Proofs.Session.Lines
import Honeypot.Proofs.Session.Chunks
import Honeypot.Proofs.Session.Attempts
import Honeypot.Proofs.Session.Counting
import Honeypot.Proofs.Session.Teardown
import Honeypot.Proofs.Session.Idle
import Honeypot.Proofs.Service.Shutdown
import Honeypot.Proofs.TextOrder
import Honeypot.Proofs.Calendar
import Honeypot.Proofs.Events.Directory
import Honeypot.Proofs.Events.Days
import Honeypot.Proofs.Events.Ledgers
import Honeypot.Proofs.Events.Cells
import Honeypot.Proofs.Events.Transcripts
import Honeypot.Proofs.Json.RoundTrip
import Honeypot.Proofs.Events.Journals
import Honeypot.Proofs.Terminal
import Honeypot.Proofs.Screen
import Honeypot.Proofs.Shell.Decomposition
import Honeypot.Proofs.Resolution
import Honeypot.Proofs.FileSystem.Reading
import Honeypot.Proofs.Shell.Depth
import Honeypot.Proofs.FileSystem.Removal
import Honeypot.Proofs.FileSystem.Walks
import Honeypot.Proofs.Session.Homes
import Honeypot.Proofs.Shell.Errands
import Honeypot.Proofs.Shell.Whereabouts
import Honeypot.Proofs.Session.Whereabouts
import Honeypot.Proofs.Shell.Entering
import Honeypot.Proofs.Shell.Showing
import Honeypot.Proofs.Shell.Findings
import Honeypot.Proofs.Stamps
import Honeypot.Proofs.FileSystem.Logs
import Honeypot.Proofs.FileSystem.Storing
import Honeypot.Proofs.Shell.Escapes
import Honeypot.Proofs.Shell.Redirections
import Honeypot.Proofs.FileSystem.Ways
import Honeypot.Proofs.Shell.FreeNames
import Honeypot.Proofs.Shell.Parents
import Honeypot.Proofs.LineEnds
import Honeypot.Proofs.Shell.Modes
import Honeypot.Proofs.Address.Text
import Honeypot.Proofs.Address.Hardware
import Honeypot.Proofs.Shell.Secrets
import Honeypot.Proofs.Metrics
import Honeypot.Proofs.Events.Gaps
import Honeypot.Proofs.Shell.Processors
import Honeypot.Proofs.Shell.Unbroken
import Honeypot.Proofs.Session.Returns
