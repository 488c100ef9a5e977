import UpsMonitor.BitField
import UpsMonitor.Checksum
import UpsMonitor.Command
import UpsMonitor.Command.Gpser
import UpsMonitor.Command.Instant
import UpsMonitor.Command.Sentry
import UpsMonitor.Config
import UpsMonitor.Config.Reading
import UpsMonitor.FailureCounter
import UpsMonitor.Fault
import UpsMonitor.Fault.Cause
import UpsMonitor.Frame
import UpsMonitor.Frame.Assembler
import UpsMonitor.Json
import UpsMonitor.Main
import UpsMonitor.Monitor
import UpsMonitor.Monitor.Control
import UpsMonitor.Monitor.Polling
import UpsMonitor.Monitor.Publishing
import UpsMonitor.Nibble
import UpsMonitor.Protocol
import UpsMonitor.Reply
import UpsMonitor.Reply.Gpser
import UpsMonitor.Reply.Sentry
import UpsMonitor.Report
import UpsMonitor.Snapshot
import UpsMonitor.Snapshot.Fields
import UpsMonitor.SortedMap
import UpsMonitor.Status
import UpsMonitor.Store
import UpsMonitor.Telemetry.Clock
import UpsMonitor.Telemetry.Disk
import UpsMonitor.Telemetry.Recorder
import UpsMonitor.Text.Blank
import UpsMonitor.Text.Utf8
import UpsMonitor.Toml.Document
import UpsMonitor.Toml.Grammar
import UpsMonitor.Toml.Moment
import UpsMonitor.Toml.Number
import UpsMonitor.Toml.Quoted
import UpsMonitor.Toml.Scan
import UpsMonitor.Toml.Table
import UpsMonitor.Toml.Value
import UpsMonitor.Usb.Bench
import UpsMonitor.Usb.Bus
import UpsMonitor.Usb.Link
import UpsMonitor.Usb.Matcher
import UpsMonitor.Usb.Transport
import UpsMonitor.Word
import UpsMonitor.Proofs.Frame.OneShot
import UpsMonitor.Proofs.Usb.Reception
import UpsMonitor.Proofs.Checksum
import UpsMonitor.Proofs.Frame.Boundary
import UpsMonitor.Proofs.Usb.Delivery
import UpsMonitor.Proofs.Reply.Status
import UpsMonitor.Proofs.Report
import UpsMonitor.Proofs.Word
import UpsMonitor.Proofs.Usb.Telemetry
import UpsMonitor.Proofs.Usb.Exchange
import UpsMonitor.Proofs.Usb.Course
import UpsMonitor.Proofs.Usb.Execution
import UpsMonitor.Proofs.Usb.Answers
import UpsMonitor.Proofs.Usb.Independence
import UpsMonitor.Proofs.Usb.Handles
import UpsMonitor.Proofs.Usb.Run
import UpsMonitor.Proofs.Monitor.Run
import UpsMonitor.Proofs.Monitor.Account
import UpsMonitor.Proofs.Monitor.Operation
import UpsMonitor.Proofs.Monitor.Integrity
import UpsMonitor.Proofs.FailureCounter
import UpsMonitor.Proofs.Monitor.Staleness
import UpsMonitor.Proofs.Monitor.Identification
import UpsMonitor.Proofs.Store
import UpsMonitor.Proofs.Json
import UpsMonitor.Proofs.Store.Text
import UpsMonitor.Proofs.Publishing
import UpsMonitor.Proofs.Reply.Decoding
import UpsMonitor.Proofs.Monitor.Freshness
import UpsMonitor.Proofs.Monitor.Control
import UpsMonitor.Proofs.Monitor.Shutdown
import UpsMonitor.Proofs.Monitor.ImmediateShutdown
import UpsMonitor.Proofs.Monitor.Detection
import UpsMonitor.Proofs.Usb.Pinning
import UpsMonitor.Proofs.Monitor.Moves
import UpsMonitor.Proofs.Monitor.Negotiation
import UpsMonitor.Proofs.Usb.Configuration
import UpsMonitor.Proofs.Usb.GraveFaults
import UpsMonitor.Proofs.Monitor.GraveFaults
import UpsMonitor.Proofs.Frame.Segment
import UpsMonitor.Proofs.Usb.Truncation
import UpsMonitor.Proofs.Monitor.Powers
import UpsMonitor.Proofs.Reply.Extent
import UpsMonitor.Proofs.SortedMap
import UpsMonitor.Proofs.Telemetry.Naming
import UpsMonitor.Proofs.Telemetry.Folder
import UpsMonitor.Proofs.Telemetry.Recording
import UpsMonitor.Proofs.Telemetry.Retention
import UpsMonitor.Proofs.Telemetry.Survival
import UpsMonitor.Proofs.Checksum.Cyclic
import UpsMonitor.Proofs.Checksum.Corruption
import UpsMonitor.Proofs.Command
import UpsMonitor.Proofs.Reply.RoundTrip
import UpsMonitor.Proofs.Formula
import UpsMonitor.Proofs.Reply.Arithmetic
import UpsMonitor.Proofs.BitField
import UpsMonitor.Proofs.Status
import UpsMonitor.Proofs.Reply.Alarms
import UpsMonitor.Proofs.Reply.Overwriting
import UpsMonitor.Proofs.Frame.Echo
import UpsMonitor.Proofs.Reply.Field
import UpsMonitor.Proofs.Config
import UpsMonitor.Proofs.Text.Utf8
import UpsMonitor.Proofs.Store.LastWord
