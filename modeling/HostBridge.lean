import HostBridge.Value.Kind
import HostBridge.Number.Binary64
import HostBridge.Number.Decimal
import HostBridge.Value.Cell
import HostBridge.Text.Display
import HostBridge.Text.Classes
import HostBridge.Text.Reader
import HostBridge.Value
import HostBridge.Log.Record
import HostBridge.Code
import HostBridge.Log.Pattern
import HostBridge.Log.FieldMatch
import HostBridge.Log.Filter
import HostBridge.Console
import HostBridge.Comparison
import HostBridge.Entropy.Source
import HostBridge.Entropy.Device
import HostBridge.ErrorSlot
import HostBridge.Completion
import HostBridge.MessageLoop.State
import HostBridge.Total
import HostBridge.MessageLoop.Step
import HostBridge.MessageLoop.Schedule
import HostBridge.MessageLoop.Tally
import HostBridge.MessageLoop.Decline
import HostBridge.MessageLoop.Progress
import HostBridge.MessageLoop.Script
import HostBridge.Toml.Value
import HostBridge.Toml.Scalar
import HostBridge.Toml.Document
import HostBridge.Settings
import HostBridge.Displayed
import HostBridge.Proofs.MessageLoop.Reachable
import HostBridge.Proofs.MessageLoop.Frame
import HostBridge.Proofs.MessageLoop.Effect
import HostBridge.Proofs.MessageLoop.Guard
import HostBridge.Proofs.MessageLoop.Shape
import HostBridge.Proofs.MessageLoop.Quitting
import HostBridge.Proofs.MessageLoop.GateOrder
import HostBridge.Proofs.MessageLoop.Custody
import HostBridge.Proofs.MessageLoop.Provenance
import HostBridge.Proofs.MessageLoop.Fate
import HostBridge.Proofs.MessageLoop.Delivery
import HostBridge.Proofs.MessageLoop.Gate
import HostBridge.Proofs.MessageLoop.Answers
import HostBridge.Proofs.MessageLoop.Waiting
import HostBridge.Proofs.MessageLoop.Shutdown
import HostBridge.Proofs.MessageLoop.Sink
import HostBridge.Proofs.MessageLoop.ForeignCode
import HostBridge.Proofs.Completion.Footprint
import HostBridge.Proofs.Completion.Deed
import HostBridge.Proofs.Completion.Motion
import HostBridge.Proofs.Completion.Course
import HostBridge.Proofs.Completion.Panics
import HostBridge.Proofs.Completion.Whereabouts
import HostBridge.Proofs.Completion.Lineage
import HostBridge.Proofs.Completion.Once
import HostBridge.Proofs.Completion.Traffic
import HostBridge.Proofs.Completion.History
import HostBridge.Proofs.Completion.Receivers
import HostBridge.Proofs.Completion.Waiters
import HostBridge.Proofs.Completion.Flags
import HostBridge.Proofs.Completion.Masking
import HostBridge.Proofs.Completion.MaskedScript
import HostBridge.Proofs.Completion.Indifference
import HostBridge.Proofs.Completion.Return
import HostBridge.Proofs.Completion.Rejection
import HostBridge.Proofs.Completion.Starts
import HostBridge.Proofs.Completion.Reentrance
import HostBridge.Proofs.Completion.Awaiting
import HostBridge.Proofs.Completion.Logging
import HostBridge.Proofs.Value.Image
import HostBridge.Proofs.Value.NormalForm
import HostBridge.Proofs.Value.ActiveBits
import HostBridge.Proofs.Text.Utf8
import HostBridge.Proofs.Text.Numerals
import HostBridge.Proofs.Text.Readers
import HostBridge.Proofs.Text.Formatting
import HostBridge.Proofs.Number.ExactValue
import HostBridge.Proofs.Number.Widening
import HostBridge.Proofs.Number.RoundingInterval
import HostBridge.Proofs.Number.Positional
import HostBridge.Proofs.Value.Access
import HostBridge.Proofs.Value.Equality
import HostBridge.Proofs.Value.Crossing
import HostBridge.Proofs.Value.Printing
import HostBridge.Proofs.Code.RoundTrip
import HostBridge.Proofs.Comparison.Prefixes
import HostBridge.Proofs.Settings.Configured
import HostBridge.Proofs.Toml.DistinctKeys
import HostBridge.Proofs.Settings.Precedence
import HostBridge.Proofs.Entropy.Liveness
import HostBridge.Proofs.Entropy.Delivery
import HostBridge.Proofs.Entropy.ReadLoop
import HostBridge.Proofs.Entropy.Opening
import HostBridge.Proofs.Entropy.FailClosed
import HostBridge.Proofs.Settings.Launching
import HostBridge.Proofs.ErrorSlot.Register
import HostBridge.Proofs.ErrorSlot.Threads
import HostBridge.Proofs.Console.Routes
import HostBridge.Proofs.Log.Cutting
import HostBridge.Proofs.Log.Selection
import HostBridge.Proofs.Log.Reading
import HostBridge.Proofs.Log.Filters
