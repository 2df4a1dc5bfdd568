import Converge.Apply.Deletion
import Converge.Apply.Execute
import Converge.Apply.Result
import Converge.Apply.Script
import Converge.Cli.Command
import Converge.Cli.Help
import Converge.Cli.Logging
import Converge.Cli.Output
import Converge.Cli.Run
import Converge.Cli.Scan
import Converge.Cli.Shell
import Converge.Cli.Style
import Converge.Cli.Switch
import Converge.Cli.Table
import Converge.Cli.Work
import Converge.Cluster.Live
import Converge.Cluster.Observe
import Converge.Cluster.Request
import Converge.Cluster.Resource
import Converge.Config.Basic
import Converge.Config.Credentials
import Converge.Config.Discovery
import Converge.Config.Document
import Converge.Config.EnvFile
import Converge.Config.Validation
import Converge.Data.Codec
import Converge.Data.Fault
import Converge.Data.Lookup
import Converge.Data.Node
import Converge.Data.SortedMap
import Converge.Data.Value
import Converge.Dump
import Converge.Failure
import Converge.Files.Basic
import Converge.Files.Path
import Converge.Files.Tree
import Converge.Http.Client
import Converge.Http.Endpoint
import Converge.Http.Message
import Converge.Http.Script
import Converge.Http.Url
import Converge.Http.Wire
import Converge.Json.Printer
import Converge.Json.Reader
import Converge.Ledger.Basic
import Converge.Ledger.File
import Converge.Ledger.Recording
import Converge.Log.Basic
import Converge.Log.Filter
import Converge.Main
import Converge.Number.Decimal
import Converge.Number.Shortest
import Converge.Plan.Basic
import Converge.Plan.Diff
import Converge.Plan.Normal
import Converge.Plan.Planner
import Converge.Program
import Converge.Proofs.Alike
import Converge.Proofs.Apply.Applications
import Converge.Proofs.Apply.Asked
import Converge.Proofs.Apply.Barrier
import Converge.Proofs.Apply.Deploying
import Converge.Proofs.Apply.Executable
import Converge.Proofs.Apply.Failures
import Converge.Proofs.Apply.Images
import Converge.Proofs.Apply.Infrastructure
import Converge.Proofs.Apply.Interrupted
import Converge.Proofs.Apply.Limits
import Converge.Proofs.Apply.Owners
import Converge.Proofs.Apply.Rebuild
import Converge.Proofs.Apply.Relisted
import Converge.Proofs.Apply.Replan
import Converge.Proofs.Apply.Report
import Converge.Proofs.Apply.Runs
import Converge.Proofs.Apply.SameRun
import Converge.Proofs.Apply.Saving
import Converge.Proofs.Apply.Script
import Converge.Proofs.Apply.Steps
import Converge.Proofs.Cli.Consent
import Converge.Proofs.Cluster.Asked
import Converge.Proofs.Cluster.Creation
import Converge.Proofs.Cluster.Cursors
import Converge.Proofs.Cluster.Deployment
import Converge.Proofs.Cluster.Observe
import Converge.Proofs.Cluster.Overlay
import Converge.Proofs.Cluster.Paging
import Converge.Proofs.Cluster.Redacted
import Converge.Proofs.Cluster.Relisted
import Converge.Proofs.Cluster.Site
import Converge.Proofs.Cluster.Untouched
import Converge.Proofs.Cluster.World
import Converge.Proofs.Config.Discovery
import Converge.Proofs.Config.RoundTrip
import Converge.Proofs.Config.Rules
import Converge.Proofs.Config.Validation
import Converge.Proofs.Course
import Converge.Proofs.Data.Codec
import Converge.Proofs.Data.Difference
import Converge.Proofs.Data.Echo
import Converge.Proofs.Data.Keyed
import Converge.Proofs.Dialogue
import Converge.Proofs.Dump
import Converge.Proofs.Files.Failing
import Converge.Proofs.Files.Place
import Converge.Proofs.Files.Tree
import Converge.Proofs.Interruption
import Converge.Proofs.Json.RoundTrip
import Converge.Proofs.Ledger.Atomic
import Converge.Proofs.Ledger.Canonical
import Converge.Proofs.Ledger.Recording
import Converge.Proofs.Ledger.Rotated
import Converge.Proofs.Ledger.Rounds
import Converge.Proofs.Ledger.Sent
import Converge.Proofs.Ledger.Store
import Converge.Proofs.Number.Decimal
import Converge.Proofs.Plan.Applications
import Converge.Proofs.Plan.Comparison
import Converge.Proofs.Plan.Created
import Converge.Proofs.Plan.Environment
import Converge.Proofs.Plan.Infrastructure
import Converge.Proofs.Plan.Interfaces
import Converge.Proofs.Plan.Join
import Converge.Proofs.Plan.Normal
import Converge.Proofs.Plan.Rearranged
import Converge.Proofs.Plan.Refused
import Converge.Proofs.Plan.Settled
import Converge.Proofs.Plan.Unchanged
import Converge.Proofs.Plan.Unseen
import Converge.Proofs.Plan.Update
import Converge.Proofs.ReadBack
import Converge.Proofs.Versions.Latest
import Converge.Proofs.Yaml.Compose
import Converge.Proofs.Yaml.Lines
import Converge.Proofs.Yaml.Literal
import Converge.Proofs.Yaml.Plain
import Converge.Proofs.Yaml.Queue
import Converge.Proofs.Yaml.Quoted
import Converge.Proofs.Yaml.RoundTrip
import Converge.Proofs.Yaml.Words
import Converge.Reconcile
import Converge.Session
import Converge.Simulation.Basic
import Converge.Simulation.Fixture
import Converge.Simulation.Rehearsal
import Converge.Simulation.Stub
import Converge.Simulation.Workstation
import Converge.Text.Base64
import Converge.Text.Blank
import Converge.Text.Escape
import Converge.Text.Letter
import Converge.Text.Printable
import Converge.Text.Ranges
import Converge.Text.Utf8
import Converge.Text.Width
import Converge.Timestamp
import Converge.Uuid
import Converge.Versions.Basic
import Converge.Versions.Query
import Converge.Yaml.Composer
import Converge.Yaml.Cursor
import Converge.Yaml.Lexer
import Converge.Yaml.Printer
import Converge.Yaml.Property
import Converge.Yaml.Resolve
import Converge.Yaml.Scalar
import Converge.Yaml.Token
