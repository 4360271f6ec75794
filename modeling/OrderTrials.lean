import OrderTrials.Campaign
import OrderTrials.Cli.Options
import OrderTrials.Cli.Session
import OrderTrials.CommandSeeds
import OrderTrials.Comparison
import OrderTrials.Configuration
import OrderTrials.Detail
import OrderTrials.Digest
import OrderTrials.Execution.Command
import OrderTrials.Execution.Launch
import OrderTrials.Execution.Run
import OrderTrials.FileTree
import OrderTrials.Job
import OrderTrials.Json.Document
import OrderTrials.Json.Printer
import OrderTrials.Json.Shape
import OrderTrials.Json.Token
import OrderTrials.Json.Value
import OrderTrials.Machine.Launching
import OrderTrials.Machine.Process
import OrderTrials.Machine.Program
import OrderTrials.Machine.Running
import OrderTrials.Main
import OrderTrials.Mutation
import OrderTrials.Number.Binary
import OrderTrials.Number.Double
import OrderTrials.Number.Reading
import OrderTrials.Path
import OrderTrials.Pool
import OrderTrials.Proofs.Answering
import OrderTrials.Proofs.Bridging
import OrderTrials.Proofs.Chaining
import OrderTrials.Proofs.Checking
import OrderTrials.Proofs.Colliding
import OrderTrials.Proofs.Comparing
import OrderTrials.Proofs.Declarations
import OrderTrials.Proofs.Drawing
import OrderTrials.Proofs.Duality
import OrderTrials.Proofs.Failing
import OrderTrials.Proofs.Folders
import OrderTrials.Proofs.Generating
import OrderTrials.Proofs.History
import OrderTrials.Proofs.Judging
import OrderTrials.Proofs.Knowing
import OrderTrials.Proofs.Listing
import OrderTrials.Proofs.Loading
import OrderTrials.Proofs.Locating
import OrderTrials.Proofs.Mutating
import OrderTrials.Proofs.Outputs
import OrderTrials.Proofs.Placing
import OrderTrials.Proofs.Ranging
import OrderTrials.Proofs.Registering
import OrderTrials.Proofs.Rendering
import OrderTrials.Proofs.Reporting
import OrderTrials.Proofs.Rerunning
import OrderTrials.Proofs.Retiring
import OrderTrials.Proofs.Standing
import OrderTrials.Proofs.Steps
import OrderTrials.Proofs.Sweeping
import OrderTrials.Proofs.Totality
import OrderTrials.Proofs.Verdicts
import OrderTrials.Proofs.Ways
import OrderTrials.Proofs.Weighing
import OrderTrials.Random.ChaCha
import OrderTrials.Random.Replay
import OrderTrials.Random.Source
import OrderTrials.Record
import OrderTrials.RecordStore
import OrderTrials.Results.GroundTruth
import OrderTrials.Results.Reader
import OrderTrials.Seed
import OrderTrials.Settings
import OrderTrials.Shell.Arithmetic
import OrderTrials.Shell.Builtin.Control
import OrderTrials.Shell.Builtin.Examining
import OrderTrials.Shell.Builtin.Naming
import OrderTrials.Shell.Builtin.Printing
import OrderTrials.Shell.Builtin.Signals
import OrderTrials.Shell.Builtin.Surroundings
import OrderTrials.Shell.Builtin.Table
import OrderTrials.Shell.Builtin.Words
import OrderTrials.Shell.Evaluation
import OrderTrials.Shell.Expansion
import OrderTrials.Shell.Field
import OrderTrials.Shell.Grammar
import OrderTrials.Shell.Jobs
import OrderTrials.Shell.Pattern
import OrderTrials.Shell.Reader
import OrderTrials.Shell.Redirecting
import OrderTrials.Shell.Script
import OrderTrials.Shell.Start
import OrderTrials.Shell.State
import OrderTrials.Space.Artifact
import OrderTrials.Space.Basic
import OrderTrials.Space.Dimension
import OrderTrials.Space.Error
import OrderTrials.Space.Graph
import OrderTrials.Space.Level
import OrderTrials.Space.Order
import OrderTrials.Table
import OrderTrials.Text.Alphabet
import OrderTrials.Text.Blank
import OrderTrials.Text.Layout
import OrderTrials.Text.Lossy
import OrderTrials.Text.Numeral
import OrderTrials.Text.Octets
import OrderTrials.Text.Printable
import OrderTrials.Text.Quoted
import OrderTrials.Text.Scan
import OrderTrials.Toml.Document
import OrderTrials.Toml.Scalar
import OrderTrials.Toml.Tree
import OrderTrials.Tools.Catalogue
import OrderTrials.Tools.Edit.Escape
import OrderTrials.Tools.Edit.Program
import OrderTrials.Tools.Edit.Reading
import OrderTrials.Tools.Edit.Replace
import OrderTrials.Tools.Edit.Running
import OrderTrials.Tools.Edit.Script
import OrderTrials.Tools.Edit.Session
import OrderTrials.Tools.Expression
import OrderTrials.Tools.Letters
import OrderTrials.Tools.Print
import OrderTrials.Tools.Regular
import OrderTrials.Tools.Show
import OrderTrials.Tools.Simple
import OrderTrials.Tools.Words
import OrderTrials.TrialLoop
import OrderTrials.Violation
import OrderTrials.Proofs.Arranging
import OrderTrials.Proofs.Leftovers
import OrderTrials.Proofs.Recording
import OrderTrials.Proofs.Reordering
import OrderTrials.Proofs.Seeding
import OrderTrials.Proofs.Shelving
import OrderTrials.Proofs.Tallying
import OrderTrials.Proofs.Committing
import OrderTrials.Proofs.Grouping
import OrderTrials.Proofs.Resolving
import OrderTrials.Proofs.Tickets
import OrderTrials.Proofs.Lining
import OrderTrials.Proofs.Meaning
import OrderTrials.Proofs.Parting
import OrderTrials.Proofs.Shaping
import OrderTrials.Proofs.Endpoints
import OrderTrials.Proofs.Skipping
import OrderTrials.Proofs.Filling
import OrderTrials.Proofs.Viewpoints
import OrderTrials.Proofs.Enumerating
import OrderTrials.Proofs.Numerals
import OrderTrials.Proofs.Reading
import OrderTrials.Proofs.Stating
import OrderTrials.Proofs.Building
