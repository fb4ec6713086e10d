import FaultInjection.Agent
import FaultInjection.Concurrency.FanOut
import FaultInjection.Concurrency.Operation
import FaultInjection.Connection
import FaultInjection.Disruption
import FaultInjection.Duration
import FaultInjection.Experiment
import FaultInjection.Experiment.Document
import FaultInjection.Experiment.Variables
import FaultInjection.Failure
import FaultInjection.Fault
import FaultInjection.Fault.Command
import FaultInjection.Fault.Spec
import FaultInjection.FileTree
import FaultInjection.Fleet
import FaultInjection.Json.Reader
import FaultInjection.Json.Shape
import FaultInjection.Json.Value
import FaultInjection.Json.Writer
import FaultInjection.Kube.Access
import FaultInjection.Kube.Address
import FaultInjection.Kube.Exec
import FaultInjection.Kube.HttpStatus
import FaultInjection.Kube.Kubeconfig
import FaultInjection.Kube.Pod
import FaultInjection.Kube.PodForm
import FaultInjection.Kube.Replies
import FaultInjection.Kube.Samples
import FaultInjection.Kube.Server
import FaultInjection.Kube.Uri
import FaultInjection.Kube.Version
import FaultInjection.Labels
import FaultInjection.Main
import FaultInjection.Number.Binary64
import FaultInjection.Number.Bounded
import FaultInjection.Number.Decimal
import FaultInjection.Number.Literal
import FaultInjection.Number.Shortest
import FaultInjection.PodAccess
import FaultInjection.Program
import FaultInjection.Proofs.Concurrency.Cancellation
import FaultInjection.Proofs.Concurrency.Durations
import FaultInjection.Proofs.Concurrency.Log
import FaultInjection.Proofs.Concurrency.Orders
import FaultInjection.Proofs.Concurrency.Outcomes
import FaultInjection.Proofs.Concurrency.Places
import FaultInjection.Proofs.Concurrency.Recording
import FaultInjection.Proofs.Concurrency.Steps
import FaultInjection.Proofs.Concurrency.Times
import FaultInjection.Proofs.Concurrency.Trips
import FaultInjection.Proofs.Concurrency.Turns
import FaultInjection.Proofs.Disruption.Campaign
import FaultInjection.Proofs.Disruption.Preparation
import FaultInjection.Proofs.Fault.Defects
import FaultInjection.Proofs.Fault.Flags
import FaultInjection.Proofs.Fault.Options
import FaultInjection.Proofs.Fault.Protocols
import FaultInjection.Proofs.Fault.Reading
import FaultInjection.Proofs.Fault.Verdicts
import FaultInjection.Proofs.Fleet.Calls
import FaultInjection.Proofs.Fleet.Cancellation
import FaultInjection.Proofs.Fleet.Executions
import FaultInjection.Proofs.Fleet.History
import FaultInjection.Proofs.Fleet.Namesakes
import FaultInjection.Proofs.Fleet.Records
import FaultInjection.Proofs.Fleet.Reports
import FaultInjection.Proofs.Fleet.Rounds
import FaultInjection.Proofs.Fleet.Schedules
import FaultInjection.Proofs.Fleet.Settlement
import FaultInjection.Proofs.Fleet.Waits
import FaultInjection.Proofs.Kube.Readiness
import FaultInjection.Proofs.Kube.Requests
import FaultInjection.Proofs.Kube.Selection
import FaultInjection.Proofs.Kube.Sessions
import FaultInjection.Proofs.Kube.Traffic
import FaultInjection.Proofs.Labels.Reading
import FaultInjection.Proofs.Number.Durations
import FaultInjection.Proofs.Number.Reading
import FaultInjection.Proofs.Number.Values
import FaultInjection.Proofs.Program.Gating
import FaultInjection.Proofs.Search
import FaultInjection.Proofs.Text.Keyed
import FaultInjection.Proofs.Text.Pieces
import FaultInjection.Proofs.Text.Trim
import FaultInjection.Proofs.Text.Utf8
import FaultInjection.Rehearsal
import FaultInjection.Run
import FaultInjection.Selector
import FaultInjection.Settings
import FaultInjection.Text.Blank
import FaultInjection.Text.Keyed
import FaultInjection.Text.Pieces
import FaultInjection.Text.Quoted
import FaultInjection.Text.Timestamp
import FaultInjection.Text.Unprintable
import FaultInjection.Text.Utf16
import FaultInjection.Text.Utf8
import FaultInjection.Yaml.Assembly
import FaultInjection.Yaml.Atom
import FaultInjection.Yaml.Content
import FaultInjection.Yaml.Cursor
import FaultInjection.Yaml.Decode
import FaultInjection.Yaml.Lexer
import FaultInjection.Yaml.Node
import FaultInjection.Yaml.Scalars
import FaultInjection.Yaml.Shape
import FaultInjection.Yaml.Token
import FaultInjection.Proofs.Labels.Grammar
import FaultInjection.Proofs.Number.Literals
import FaultInjection.Proofs.Experiment.Variables
import FaultInjection.Proofs.Experiment.Exclusions
import FaultInjection.Proofs.Yaml.Spellings
import FaultInjection.Proofs.Experiment.FaultEntries
import FaultInjection.Proofs.Experiment.Documents
import FaultInjection.Proofs.Kube.Versions
import FaultInjection.Proofs.Program.Settings
import FaultInjection.Proofs.Kube.Replies
