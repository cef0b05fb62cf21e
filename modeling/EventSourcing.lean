import EventSourcing.Aggregate
import EventSourcing.Application.Basic
import EventSourcing.Application.Settings
import EventSourcing.Application.Wiring
import EventSourcing.Clock
import EventSourcing.Command.Basic
import EventSourcing.Command.Definition
import EventSourcing.Command.Result
import EventSourcing.Datum.Access
import EventSourcing.Datum.Basic
import EventSourcing.Datum.Literal
import EventSourcing.Datum.Pairs
import EventSourcing.Event.Basic
import EventSourcing.Event.Live
import EventSourcing.Event.Record
import EventSourcing.Fault.Basic
import EventSourcing.Fault.FieldErrors
import EventSourcing.Fault.Validation
import EventSourcing.Files.Path
import EventSourcing.Files.Tree
import EventSourcing.Json.Basic
import EventSourcing.Json.Reader
import EventSourcing.Json.Writer
import EventSourcing.Number.Binary64
import EventSourcing.Number.DecimalText
import EventSourcing.Number.Shortest
import EventSourcing.Parameter
import EventSourcing.Proofs.Application.AllOrNothing
import EventSourcing.Proofs.Application.Committing
import EventSourcing.Proofs.Application.Course
import EventSourcing.Proofs.Application.DeliveredIdentifier
import EventSourcing.Proofs.Application.Dispatching
import EventSourcing.Proofs.Application.DurableResult
import EventSourcing.Proofs.Application.EarliestFailure
import EventSourcing.Proofs.Application.HandedHistory
import EventSourcing.Proofs.Application.Handling
import EventSourcing.Proofs.Application.Keeping
import EventSourcing.Proofs.Application.LiveProjection
import EventSourcing.Proofs.Application.NestedPublishing
import EventSourcing.Proofs.Application.Outcome
import EventSourcing.Proofs.Application.OwnHistory
import EventSourcing.Proofs.Application.ProjectionFailures
import EventSourcing.Proofs.Application.Publishing
import EventSourcing.Proofs.Application.Rebuilding
import EventSourcing.Proofs.Application.Relaying
import EventSourcing.Proofs.Application.ReplayAccounting
import EventSourcing.Proofs.Application.Reporting
import EventSourcing.Proofs.Application.Resending
import EventSourcing.Proofs.Application.Runs
import EventSourcing.Proofs.Application.StampOrder
import EventSourcing.Proofs.Application.StampedWriting
import EventSourcing.Proofs.Application.StreamIsolation
import EventSourcing.Proofs.Application.UnreadableHistory
import EventSourcing.Proofs.Application.Withholding
import EventSourcing.Proofs.Command.Acknowledging
import EventSourcing.Proofs.Command.Attempts
import EventSourcing.Proofs.Command.Desk
import EventSourcing.Proofs.Command.Drafts
import EventSourcing.Proofs.Command.Filling
import EventSourcing.Proofs.Command.InOrder
import EventSourcing.Proofs.Command.Interleaving
import EventSourcing.Proofs.Command.KeptTexts
import EventSourcing.Proofs.Command.Making
import EventSourcing.Proofs.Command.Named
import EventSourcing.Proofs.Command.NamedByTime
import EventSourcing.Proofs.Command.Populating
import EventSourcing.Proofs.Event.DecodedTypes
import EventSourcing.Proofs.Event.Encodable
import EventSourcing.Proofs.Event.OneWaySeal
import EventSourcing.Proofs.Event.OpenEvent
import EventSourcing.Proofs.Event.RecordRoundTrip
import EventSourcing.Proofs.Event.Sealing
import EventSourcing.Proofs.Event.StandardLine
import EventSourcing.Proofs.Fault.ErrorUnion
import EventSourcing.Proofs.Fault.Merging
import EventSourcing.Proofs.Fault.MessageLists
import EventSourcing.Proofs.Files.TreeLaws
import EventSourcing.Proofs.Json.Grammar
import EventSourcing.Proofs.Json.OneLine
import EventSourcing.Proofs.Json.StandardText
import EventSourcing.Proofs.Json.TextRoundTrip
import EventSourcing.Proofs.Json.ValueRoundTrip
import EventSourcing.Proofs.Number.ShortestDigits
import EventSourcing.Proofs.Store.AbortedAppend
import EventSourcing.Proofs.Store.AppendReadable
import EventSourcing.Proofs.Store.DiskAppend
import EventSourcing.Proofs.Store.DiskRefinesMemory
import EventSourcing.Proofs.Store.DiskReplay
import EventSourcing.Proofs.Store.GrowingReplay
import EventSourcing.Proofs.Store.Handover
import EventSourcing.Proofs.Store.LineByLine
import EventSourcing.Proofs.Store.Listing
import EventSourcing.Proofs.Store.LogContents
import EventSourcing.Proofs.Store.LogCourse
import EventSourcing.Proofs.Store.LogGrowth
import EventSourcing.Proofs.Store.LogRecords
import EventSourcing.Proofs.Store.MemoryLaws
import EventSourcing.Proofs.Store.ReadFaults
import EventSourcing.Proofs.Store.ReplayReach
import EventSourcing.Proofs.Store.StoredBatch
import EventSourcing.Proofs.Store.StoredHistory
import EventSourcing.Proofs.System.Running
import EventSourcing.Proofs.Text.DecimalDigits
import EventSourcing.Proofs.Text.Utf8RoundTrip
import EventSourcing.Proofs.Time.DayNumbers
import EventSourcing.Proofs.Time.FixedClock
import EventSourcing.Proofs.Time.GenerousReading
import EventSourcing.Proofs.Time.IsoRoundTrip
import EventSourcing.Proofs.Time.Nanoseconds
import EventSourcing.Proofs.Time.TimeLine
import EventSourcing.Proofs.Time.TimestampRoundTrip
import EventSourcing.Proofs.Web.BodyRoundTrip
import EventSourcing.Proofs.Web.Envelopes
import EventSourcing.Proofs.Web.TruthfulAnswer
import EventSourcing.Store.Basic
import EventSourcing.System.Basic
import EventSourcing.System.Raise
import EventSourcing.System.Table
import EventSourcing.Testing.Contract
import EventSourcing.Testing.Inspect
import EventSourcing.Testing.Rehearsal
import EventSourcing.Testing.Script
import EventSourcing.Testing.Template
import EventSourcing.Testing.TickingClock
import EventSourcing.Text.AnyText
import EventSourcing.Text.Blank
import EventSourcing.Text.Digit
import EventSourcing.Text.Hex
import EventSourcing.Text.Printable
import EventSourcing.Text.Quoted
import EventSourcing.Text.Utf8
import EventSourcing.Time.Calendar
import EventSourcing.Time.Duration
import EventSourcing.Time.IsoText
import EventSourcing.Time.Moment
import EventSourcing.Time.Timestamp
import EventSourcing.Web.Form
import EventSourcing.Web.Response
