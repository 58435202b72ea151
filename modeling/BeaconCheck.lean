import BeaconCheck.CommandLine.Execution
import BeaconCheck.Endpoint
import BeaconCheck.Main
import BeaconCheck.Run.Stepper
import BeaconCheck.Proofs.Capture.Operations
import BeaconCheck.Proofs.Run.Performance
import BeaconCheck.Proofs.Run.Calls
import BeaconCheck.Proofs.Session.Stage
import BeaconCheck.Proofs.Session.Trace
import BeaconCheck.Proofs.Run.Alike
import BeaconCheck.Proofs.Session.Alike
import BeaconCheck.Proofs.Session.Teardown
import BeaconCheck.Proofs.Session.RequestCheck
import BeaconCheck.Proofs.Number.Range
import BeaconCheck.Proofs.Value.Comparison
import BeaconCheck.Proofs.World.Unlogged
import BeaconCheck.Proofs.Run.Record
import BeaconCheck.Proofs.Run.Timeout
import BeaconCheck.Proofs.Capture.Deadline
import BeaconCheck.Proofs.Run.Failure
import BeaconCheck.Proofs.Json.Plain
import BeaconCheck.Proofs.Value.Showing
import BeaconCheck.Proofs.Number.Duration
import BeaconCheck.Proofs.Definition.Grammar
import BeaconCheck.Proofs.Definition.Reading
import BeaconCheck.Proofs.Definition.Steps
import BeaconCheck.Proofs.Definition.Options
import BeaconCheck.Proofs.Definition.Acceptance
import BeaconCheck.Proofs.Definition.Durations
import BeaconCheck.Proofs.Definition.Plain
import BeaconCheck.Proofs.Run.Results
import BeaconCheck.Proofs.Run.Stepping
import BeaconCheck.Proofs.Endpoint.Status
import BeaconCheck.Proofs.CommandLine.Agreement
import BeaconCheck.Proofs.Entries
import BeaconCheck.Proofs.Capture.Matching
import BeaconCheck.Proofs.Text.Utf8
import BeaconCheck.Proofs.Query.Cutting
import BeaconCheck.Proofs.Query.Encoding
import BeaconCheck.Proofs.Session.MoreTrackers
import BeaconCheck.Proofs.CommandLine.Start
import BeaconCheck.Proofs.Session.Reuse
import BeaconCheck.Proofs.Session.Awaited
import BeaconCheck.Proofs.Session.Settling
import BeaconCheck.Proofs.World.Schedule
import BeaconCheck.Proofs.CommandLine.Writing
import BeaconCheck.Proofs.CommandLine.Outcome
import BeaconCheck.Proofs.Query.Fragment
import BeaconCheck.Proofs.Query.Decoding
import BeaconCheck.Proofs.Query.Locality
import BeaconCheck.Proofs.Number.Literal
import BeaconCheck.Proofs.Value.Literal
import BeaconCheck.Proofs.Definition.Settings
import BeaconCheck.Proofs.Value.Symmetry
import BeaconCheck.Proofs.Run.LayerCheck
import BeaconCheck.Proofs.Run.Satisfied
import BeaconCheck.Proofs.Json.Source
import BeaconCheck.Proofs.Text.Blocks
import BeaconCheck.Proofs.Yaml.Cursor
import BeaconCheck.Proofs.Yaml.Quoted
import BeaconCheck.Proofs.Yaml.Plain
import BeaconCheck.Proofs.Yaml.NumberTag
import BeaconCheck.Proofs.Yaml.Number
import BeaconCheck.Proofs.Yaml.Lexer
import BeaconCheck.Proofs.Yaml.TokenSteps
import BeaconCheck.Proofs.Yaml.Cutting
import BeaconCheck.Proofs.Yaml.Readers
import BeaconCheck.Proofs.Yaml.Ending
import BeaconCheck.Proofs.Yaml.Reading
import BeaconCheck.Proofs.Yaml.Values
import BeaconCheck.Proofs.CommandLine.JsonFiles
import BeaconCheck.Proofs.Session.Window
import BeaconCheck.Proofs.Definition.Fields
import BeaconCheck.Proofs.CommandLine.Window
import BeaconCheck.Proofs.Definition.Nulls
import BeaconCheck.Proofs.Json.Obstacles
import BeaconCheck.Proofs.CommandLine.Report
import BeaconCheck.Proofs.Yaml.Crashing
import BeaconCheck.Proofs.Yaml.Malformed
import BeaconCheck.Proofs.CommandLine.Unreadable
