import ResultCursor.Address
import ResultCursor.BatchReply
import ResultCursor.Blocking
import ResultCursor.Bson.Equality
import ResultCursor.Bson.Extended
import ResultCursor.Bson.Inspect
import ResultCursor.Bson.Value
import ResultCursor.Call
import ResultCursor.Command
import ResultCursor.Correlation
import ResultCursor.Cursor
import ResultCursor.Failure
import ResultCursor.Failure.Message
import ResultCursor.Failure.Report
import ResultCursor.Files
import ResultCursor.Journal
import ResultCursor.Json.Printer
import ResultCursor.Json.Reader
import ResultCursor.Json.Value
import ResultCursor.Level
import ResultCursor.Loan
import ResultCursor.Namespace
import ResultCursor.Numeric.Binary64
import ResultCursor.Numeric.DecimalText
import ResultCursor.Numeric.Shortest
import ResultCursor.Numeric.Word
import ResultCursor.Options
import ResultCursor.Pattern.Automaton
import ResultCursor.Pattern.Reader
import ResultCursor.Pattern.Syntax
import ResultCursor.Peer
import ResultCursor.Peer.Basic
import ResultCursor.Peer.Gateway
import ResultCursor.Peer.MemoryServer
import ResultCursor.Peer.Script
import ResultCursor.Playback.Crowd
import ResultCursor.Playback.Job
import ResultCursor.Playback.Link
import ResultCursor.Playback.Routine
import ResultCursor.Playback.Solo
import ResultCursor.Quota
import ResultCursor.RemoteCursor
import ResultCursor.Session
import ResultCursor.Settings.Basic
import ResultCursor.Settings.Document
import ResultCursor.Settings.Filter
import ResultCursor.Settings.Storage
import ResultCursor.Settings.Variables
import ResultCursor.Shared
import ResultCursor.Shared.Calls
import ResultCursor.Shared.Turns
import ResultCursor.Signal
import ResultCursor.Text.Blank
import ResultCursor.Text.Bytes
import ResultCursor.Text.Decimal
import ResultCursor.Text.Hexadecimal
import ResultCursor.Text.Hidden
import ResultCursor.Text.Letter
import ResultCursor.Text.Quoted
import ResultCursor.Time.Clock
import ResultCursor.Time.Deadline
import ResultCursor.Time.Scope
import ResultCursor.Time.Span
import ResultCursor.Toml.Document
import ResultCursor.Toml.Draft
import ResultCursor.Toml.Layout
import ResultCursor.Toml.Moment
import ResultCursor.Toml.Number
import ResultCursor.Toml.Printer
import ResultCursor.Toml.Quoted
import ResultCursor.Toml.Statement
import ResultCursor.Toml.Value
import ResultCursor.Proofs.Agreement.Calls
import ResultCursor.Proofs.Agreement.Kinds
import ResultCursor.Proofs.Agreement.Sessions
import ResultCursor.Proofs.Agreement.Usage
import ResultCursor.Proofs.Conservation
import ResultCursor.Proofs.Course.Blocking
import ResultCursor.Proofs.Course.Calls
import ResultCursor.Proofs.Course.Coherence
import ResultCursor.Proofs.Course.Deadlines
import ResultCursor.Proofs.Course.Frame
import ResultCursor.Proofs.Course.Inactive
import ResultCursor.Proofs.Course.Location
import ResultCursor.Proofs.Course.Quiet
import ResultCursor.Proofs.Course.Shared
import ResultCursor.Proofs.Course.Step
import ResultCursor.Proofs.Dialogue
import ResultCursor.Proofs.Disposal.Kinds
import ResultCursor.Proofs.Disposal.Sessions
import ResultCursor.Proofs.Disposal.Ways
import ResultCursor.Proofs.Draining.Batches
import ResultCursor.Proofs.Draining.Calls
import ResultCursor.Proofs.Draining.Completeness
import ResultCursor.Proofs.Draining.Landing
import ResultCursor.Proofs.Draining.Reading
import ResultCursor.Proofs.Draining.Server
import ResultCursor.Proofs.Draining.Table
import ResultCursor.Proofs.Exhaustion
import ResultCursor.Proofs.Foretelling.Calls
import ResultCursor.Proofs.Foretelling.Kinds
import ResultCursor.Proofs.Foretelling.Pairs
import ResultCursor.Proofs.Foretelling.Reading
import ResultCursor.Proofs.Gateway.Conversion
import ResultCursor.Proofs.Gateway.Faults
import ResultCursor.Proofs.Gateway.Outcomes
import ResultCursor.Proofs.Inquiry
import ResultCursor.Proofs.KillDecision
import ResultCursor.Proofs.Leases
import ResultCursor.Proofs.Limits.Milliseconds
import ResultCursor.Proofs.Limits.Quota
import ResultCursor.Proofs.Limits.Requests
import ResultCursor.Proofs.Limits.Words
import ResultCursor.Proofs.Loans
import ResultCursor.Proofs.Merging.Documents
import ResultCursor.Proofs.Merging.Keys
import ResultCursor.Proofs.Merging.Loading
import ResultCursor.Proofs.Merging.Variables
import ResultCursor.Proofs.Namespaces
import ResultCursor.Proofs.Opening.Outcome
import ResultCursor.Proofs.Opening.Runs
import ResultCursor.Proofs.Opening.Tailing
import ResultCursor.Proofs.Overrides
import ResultCursor.Proofs.Phases
import ResultCursor.Proofs.Protocol
import ResultCursor.Proofs.Querying.Documents
import ResultCursor.Proofs.Querying.Moments
import ResultCursor.Proofs.Querying.Waits
import ResultCursor.Proofs.Replies
import ResultCursor.Proofs.ReplyFormat
import ResultCursor.Proofs.Run.Moves
import ResultCursor.Proofs.Run.Situation
import ResultCursor.Proofs.Scopes.Courses
import ResultCursor.Proofs.Scopes.Nesting
import ResultCursor.Proofs.Scopes.Overlap
import ResultCursor.Proofs.Serving.Batches
import ResultCursor.Proofs.Serving.Operations
import ResultCursor.Proofs.Serving.Requests
import ResultCursor.Proofs.Serving.Stock
import ResultCursor.Proofs.Sharing.Answers
import ResultCursor.Proofs.Sharing.Attending
import ResultCursor.Proofs.Sharing.Closing
import ResultCursor.Proofs.Sharing.Log
import ResultCursor.Proofs.Sharing.Serial
import ResultCursor.Proofs.SingleBatch
import ResultCursor.Proofs.Speech
import ResultCursor.Proofs.Stopping.Cleanups
import ResultCursor.Proofs.Stopping.CloseRequests
import ResultCursor.Proofs.Stopping.Halting
import ResultCursor.Proofs.Stopping.Interrupts
import ResultCursor.Proofs.Stopping.Release
import ResultCursor.Proofs.Stopping.Requests
import ResultCursor.Proofs.Stopping.Signals
import ResultCursor.Proofs.Storing.Contents
import ResultCursor.Proofs.Storing.Folders
import ResultCursor.Proofs.Storing.Paths
import ResultCursor.Proofs.Storing.Settings
import ResultCursor.Proofs.StrayKills
import ResultCursor.Proofs.Streaming.Calls
import ResultCursor.Proofs.Streaming.Items
import ResultCursor.Proofs.Streaming.Reading
import ResultCursor.Proofs.Streaming.Streams
import ResultCursor.Proofs.Timing.Entering
import ResultCursor.Proofs.Timing.Fetching
import ResultCursor.Proofs.Timing.Punctual
import ResultCursor.Proofs.Timing.Requests
import ResultCursor.Proofs.Unseen.Calls
import ResultCursor.Proofs.Unseen.Kills
import ResultCursor.Proofs.Unseen.Past
import ResultCursor.Proofs.Writing.JsonValues
import ResultCursor.Proofs.Writing.JsonWords
import ResultCursor.Proofs.Writing.Numerals
import ResultCursor.Proofs.Writing.Reports
import ResultCursor.Proofs.Writing.Settings
import ResultCursor.Proofs.Writing.TomlDocuments
import ResultCursor.Proofs.Writing.TomlQuotes
import ResultCursor.Proofs.Writing.TomlValues
