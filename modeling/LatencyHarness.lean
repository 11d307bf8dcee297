import LatencyHarness.Client
import LatencyHarness.CommandLine.Grammar
import LatencyHarness.CommandLine.Help
import LatencyHarness.CommandLine.Parser
import LatencyHarness.Config
import LatencyHarness.Controller
import LatencyHarness.Environment
import LatencyHarness.Environment.File
import LatencyHarness.Failure
import LatencyHarness.Host
import LatencyHarness.Ids
import LatencyHarness.Invocation
import LatencyHarness.Journal
import LatencyHarness.Json.Quoted
import LatencyHarness.Json.Scan
import LatencyHarness.Main
import LatencyHarness.Output.LineReader
import LatencyHarness.Output.Reading
import LatencyHarness.Path
import LatencyHarness.Pattern
import LatencyHarness.Pattern.CharSet
import LatencyHarness.Pattern.Expr
import LatencyHarness.Pattern.Meaning
import LatencyHarness.Pattern.Parser
import LatencyHarness.Pattern.Syntax
import LatencyHarness.Pattern.Unicode.CaseFold
import LatencyHarness.Pattern.Unicode.Category
import LatencyHarness.Pattern.Unicode.Properties
import LatencyHarness.Pattern.Unicode.Runs
import LatencyHarness.Pattern.Unicode.Script
import LatencyHarness.Pidfile
import LatencyHarness.Pidfile.Folder
import LatencyHarness.Pidfile.Record
import LatencyHarness.Preconditions
import LatencyHarness.Readiness.Outcome
import LatencyHarness.Readiness.Watch
import LatencyHarness.Reclaim
import LatencyHarness.Reclaim.Probe
import LatencyHarness.Reclaim.SocketTable
import LatencyHarness.Report
import LatencyHarness.Report.Json
import LatencyHarness.Role
import LatencyHarness.RunOptions
import LatencyHarness.RunState
import LatencyHarness.Session
import LatencyHarness.Shutdown
import LatencyHarness.Simulation.Bench
import LatencyHarness.Simulation.Captive
import LatencyHarness.Simulation.Population
import LatencyHarness.Simulation.Debut
import LatencyHarness.Simulation.FileTree
import LatencyHarness.Simulation.Holdout
import LatencyHarness.Simulation.Machine
import LatencyHarness.Simulation.ProcessState
import LatencyHarness.Simulation.Program
import LatencyHarness.Simulation.Script
import LatencyHarness.Simulation.Toolbox
import LatencyHarness.StubService
import LatencyHarness.Supervisor
import LatencyHarness.SystemError
import LatencyHarness.Text.Blank
import LatencyHarness.Text.Hex
import LatencyHarness.Text.Lines
import LatencyHarness.Text.Numeral
import LatencyHarness.Text.Search
import LatencyHarness.Text.Utf8
import LatencyHarness.Timestamp
import LatencyHarness.WaitStatus
import LatencyHarness.Proofs.Kinds
import LatencyHarness.Proofs.Steps
import LatencyHarness.Proofs.Lookups
import LatencyHarness.Proofs.Texts
import LatencyHarness.Proofs.Numerals
import LatencyHarness.Proofs.Records
import LatencyHarness.Proofs.Listeners
import LatencyHarness.Proofs.Listings
import LatencyHarness.Proofs.Orderly
import LatencyHarness.Proofs.Fields
import LatencyHarness.Proofs.Halts
import LatencyHarness.Proofs.Calm
import LatencyHarness.Proofs.Conduct
import LatencyHarness.Proofs.Course
import LatencyHarness.Proofs.Books
import LatencyHarness.Proofs.Drive
import LatencyHarness.Proofs.Teardown
import LatencyHarness.Proofs.Stopping
import LatencyHarness.Proofs.Bench
import LatencyHarness.Proofs.Ending
import LatencyHarness.Proofs.Crashes
import LatencyHarness.Proofs.Custody
import LatencyHarness.Proofs.Survivors
import LatencyHarness.Proofs.Kills
import LatencyHarness.Proofs.Delivery
import LatencyHarness.Proofs.Console
import LatencyHarness.Proofs.Script
import LatencyHarness.Proofs.Lines
import LatencyHarness.Proofs.Handover
import LatencyHarness.Proofs.Statuses
import LatencyHarness.Proofs.Starts
import LatencyHarness.Proofs.Launches
import LatencyHarness.Proofs.Conservation
import LatencyHarness.Proofs.Pidfiles
import LatencyHarness.Proofs.Recognition
import LatencyHarness.Proofs.ProbeOrder
import LatencyHarness.Proofs.Punctual
import LatencyHarness.Proofs.Queries
import LatencyHarness.Proofs.Expectation
import LatencyHarness.Proofs.Readiness
import LatencyHarness.Proofs.Series
import LatencyHarness.Proofs.Attempts
import LatencyHarness.Proofs.Preflight
import LatencyHarness.Proofs.Polling
import LatencyHarness.Proofs.Stages
import LatencyHarness.Proofs.Verdict
import LatencyHarness.Proofs.Escalation
import LatencyHarness.Proofs.Summary
import LatencyHarness.Proofs.Atomicity
import LatencyHarness.Proofs.Partition
import LatencyHarness.Proofs.PatternSweep
import LatencyHarness.Proofs.Retrieval
import LatencyHarness.Proofs.JsonTexts
import LatencyHarness.Proofs.Replacement
import LatencyHarness.Proofs.Reports
import LatencyHarness.Proofs.Validation
import LatencyHarness.Proofs.Arguments
import LatencyHarness.Proofs.RunSettings
