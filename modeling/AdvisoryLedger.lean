import AdvisoryLedger.Cli.Folder
import AdvisoryLedger.Dispatch.Workers
import AdvisoryLedger.Main
import AdvisoryLedger.Store.History
import AdvisoryLedger.Proofs.Store.Invariant
import AdvisoryLedger.Proofs.Store.Predicates
import AdvisoryLedger.Proofs.Store.Upsert
import AdvisoryLedger.Proofs.Store.Links
import AdvisoryLedger.Proofs.Store.Synchronize
import AdvisoryLedger.Proofs.Store.Reachable
import AdvisoryLedger.Proofs.Store.LastWrite
import AdvisoryLedger.Proofs.Store.Weaknesses
import AdvisoryLedger.Proofs.Text.Digits
import AdvisoryLedger.Proofs.Time.Timestamp
import AdvisoryLedger.Proofs.Version.Range
import AdvisoryLedger.Proofs.Vulnerability.Identity
import AdvisoryLedger.Proofs.Dispatch.Batch
import AdvisoryLedger.Proofs.Dispatch.Idempotence
import AdvisoryLedger.Proofs.Dispatch.Schedule
import AdvisoryLedger.Proofs.Dispatch.Alone
import AdvisoryLedger.Proofs.Dispatch.Outcome
import AdvisoryLedger.Proofs.Dispatch.Replies
import AdvisoryLedger.Proofs.Dispatch.Interleaving
import AdvisoryLedger.Proofs.Dispatch.Underway
import AdvisoryLedger.Proofs.Dispatch.Independence
import AdvisoryLedger.Proofs.Version.Strip
import AdvisoryLedger.Proofs.Version.Grammar
import AdvisoryLedger.Dispatch.CallLog
import AdvisoryLedger.Dispatch.Turns
import AdvisoryLedger.Proofs.Dispatch.Isolation
import AdvisoryLedger.Proofs.Dispatch.Prefix
import AdvisoryLedger.Proofs.Package.Url
import AdvisoryLedger.Proofs.Vulnerability.Keys
import AdvisoryLedger.Proofs.Session.ReadBack
import AdvisoryLedger.Proofs.Session.Staleness
import AdvisoryLedger.Dispatch.Moments
import AdvisoryLedger.Proofs.Dispatch.Watching
import AdvisoryLedger.Proofs.Dispatch.Moments
import AdvisoryLedger.Dispatch.Watch
import AdvisoryLedger.Proofs.Dispatch.Watched
import AdvisoryLedger.Proofs.Dispatch.Accounting
import AdvisoryLedger.Proofs.Store.Submissions
import AdvisoryLedger.Store.Requests
import AdvisoryLedger.Proofs.Session.Versions
import AdvisoryLedger.Json.Members
import AdvisoryLedger.Proofs.Json.Reading
import AdvisoryLedger.Advisory.Document
import AdvisoryLedger.Proofs.Advisory.Entries
import AdvisoryLedger.Proofs.Advisory.Shapes
import AdvisoryLedger.Proofs.Time.Order
import AdvisoryLedger.Store.Statements
import AdvisoryLedger.Proofs.Store.Refusals
import AdvisoryLedger.Proofs.Store.Attributions
import AdvisoryLedger.Proofs.Store.Times
import AdvisoryLedger.Proofs.Text.Casing
import AdvisoryLedger.Proofs.Text.Percent
import AdvisoryLedger.Proofs.Package.Canonical
import AdvisoryLedger.Proofs.Package.Reading
import AdvisoryLedger.Proofs.Package.Display
import AdvisoryLedger.Proofs.Package.Addresses
import AdvisoryLedger.Proofs.Version.Clauses
import AdvisoryLedger.Proofs.Report.Ranges
import AdvisoryLedger.Proofs.Dispatch.Built
import AdvisoryLedger.Proofs.Session.Drafts
import AdvisoryLedger.Proofs.Text.ByteOrder
import AdvisoryLedger.Proofs.Store.Chronology
import AdvisoryLedger.Proofs.Report.Order
import AdvisoryLedger.Proofs.Package.Segment
import AdvisoryLedger.Proofs.Session.Weaknesses
import AdvisoryLedger.Proofs.Advisory.Dates
import AdvisoryLedger.Proofs.Text.Slices
import AdvisoryLedger.Proofs.Vulnerability.Weakness
import AdvisoryLedger.Proofs.Text.Quoted
import AdvisoryLedger.Proofs.Redaction
import AdvisoryLedger.Dispatch.Gate
import AdvisoryLedger.Proofs.Dispatch.Recorded
import AdvisoryLedger.Proofs.Dispatch.Gate
