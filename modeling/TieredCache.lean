import TieredCache.Agenda
import TieredCache.Buffer
import TieredCache.Bytes
import TieredCache.Command.Arguments
import TieredCache.Command.Collector
import TieredCache.Command.Execution
import TieredCache.Command.Help
import TieredCache.Command.Output
import TieredCache.Digest.Sha256
import TieredCache.Disk.Change
import TieredCache.Disk.Cleaning
import TieredCache.Disk.FileTree
import TieredCache.Disk.Lock
import TieredCache.Disk.Quota
import TieredCache.Disk.Route
import TieredCache.Disk.Store
import TieredCache.Entries
import TieredCache.Fault
import TieredCache.Front.Counts
import TieredCache.Front.Outcome
import TieredCache.Front.ResponseCache
import TieredCache.Front.TwoTier
import TieredCache.Json.Reader
import TieredCache.Json.Skim
import TieredCache.Json.Text
import TieredCache.Key.Escape
import TieredCache.Key.Path
import TieredCache.Layer.Admission
import TieredCache.Layer.Delay
import TieredCache.Layer.Guard
import TieredCache.Layer.Lookup
import TieredCache.Layer.Memory
import TieredCache.Layer.Stack
import TieredCache.Main
import TieredCache.Proofs.Admission.Accounts
import TieredCache.Proofs.Admission.Effect
import TieredCache.Proofs.Admission.Ledger
import TieredCache.Proofs.Admission.Places
import TieredCache.Proofs.Admission.Run
import TieredCache.Proofs.Admission.Traffic
import TieredCache.Proofs.Calls
import TieredCache.Proofs.Command.Deletion
import TieredCache.Proofs.Command.Rest
import TieredCache.Proofs.Decorators.Act
import TieredCache.Proofs.Decorators.Calls
import TieredCache.Proofs.Decorators.Closing
import TieredCache.Proofs.Decorators.Contract
import TieredCache.Proofs.Decorators.Descent
import TieredCache.Proofs.Decorators.Errands
import TieredCache.Proofs.Decorators.History
import TieredCache.Proofs.Decorators.Labels
import TieredCache.Proofs.Decorators.Operations
import TieredCache.Proofs.Decorators.Order
import TieredCache.Proofs.Decorators.Roots
import TieredCache.Proofs.Decorators.Steps
import TieredCache.Proofs.Decorators.Toll
import TieredCache.Proofs.Decorators.Unused
import TieredCache.Proofs.Decorators.Upkeep
import TieredCache.Proofs.Decorators.Visits
import TieredCache.Proofs.Disk.Access
import TieredCache.Proofs.Disk.Attempts
import TieredCache.Proofs.Disk.Choice
import TieredCache.Proofs.Disk.CleanTime
import TieredCache.Proofs.Disk.Contents
import TieredCache.Proofs.Disk.Exclusion
import TieredCache.Proofs.Disk.Files
import TieredCache.Proofs.Disk.Housed
import TieredCache.Proofs.Disk.Keyed
import TieredCache.Proofs.Disk.Lengths
import TieredCache.Proofs.Disk.Passes
import TieredCache.Proofs.Disk.Pruning
import TieredCache.Proofs.Disk.Recency
import TieredCache.Proofs.Disk.Removal
import TieredCache.Proofs.Disk.Routes
import TieredCache.Proofs.Disk.Schedule
import TieredCache.Proofs.Disk.Selection
import TieredCache.Proofs.Disk.Sound
import TieredCache.Proofs.Disk.Spacing
import TieredCache.Proofs.Disk.Sweep
import TieredCache.Proofs.Disk.Takeover
import TieredCache.Proofs.Disk.Targets
import TieredCache.Proofs.Disk.Traversal
import TieredCache.Proofs.Disk.Walks
import TieredCache.Proofs.Front.Backfill
import TieredCache.Proofs.Front.Bare
import TieredCache.Proofs.Front.Deadline
import TieredCache.Proofs.Front.Depot
import TieredCache.Proofs.Front.Desk
import TieredCache.Proofs.Front.Forgery
import TieredCache.Proofs.Front.Gate
import TieredCache.Proofs.Front.Lone
import TieredCache.Proofs.Front.Merging
import TieredCache.Proofs.Front.Pace
import TieredCache.Proofs.Front.Provenance
import TieredCache.Proofs.Front.ReadBack
import TieredCache.Proofs.Front.Remembered
import TieredCache.Proofs.Front.Reports
import TieredCache.Proofs.Front.Sentinel
import TieredCache.Proofs.Front.Shelves
import TieredCache.Proofs.Front.Statistics
import TieredCache.Proofs.Front.Timeline
import TieredCache.Proofs.Front.Transparency
import TieredCache.Proofs.Front.Underway
import TieredCache.Proofs.Front.Usage
import TieredCache.Proofs.Front.Verdict
import TieredCache.Proofs.Front.Writes
import TieredCache.Proofs.Guard.Exits
import TieredCache.Proofs.Guard.Moments
import TieredCache.Proofs.Guard.Reentry
import TieredCache.Proofs.Guard.Sequence
import TieredCache.Proofs.Json.Reads
import TieredCache.Proofs.Key.Distinct
import TieredCache.Proofs.Key.Dots
import TieredCache.Proofs.Key.Names
import TieredCache.Proofs.Key.Shadowing
import TieredCache.Proofs.Remote.Assurance
import TieredCache.Proofs.Remote.Books
import TieredCache.Proofs.Remote.Correspondence
import TieredCache.Proofs.Remote.Objects
import TieredCache.Proofs.Remote.Outlook
import TieredCache.Proofs.Remote.Runs
import TieredCache.Proofs.Response.Dates
import TieredCache.Proofs.Response.Elements
import TieredCache.Proofs.Response.Framing
import TieredCache.Proofs.Response.Lists
import TieredCache.Proofs.Response.Outline
import TieredCache.Proofs.Response.Precedence
import TieredCache.Proofs.Response.RoundTrip
import TieredCache.Proofs.Url.Encoding
import TieredCache.Remote.Exchange
import TieredCache.Remote.Flush
import TieredCache.Remote.ObjectStore
import TieredCache.Remote.Store
import TieredCache.Response.Directives
import TieredCache.Response.Failure
import TieredCache.Response.Head
import TieredCache.Response.HeadText
import TieredCache.Response.Lifetime
import TieredCache.Response.Refusal
import TieredCache.Response.Stored
import TieredCache.Session.Assembly
import TieredCache.Session.DiskSteps
import TieredCache.Session.FrontSteps
import TieredCache.Session.LayerSteps
import TieredCache.Session.Lookups
import TieredCache.Session.Reply
import TieredCache.Session.Run
import TieredCache.Session.State
import TieredCache.Session.Step
import TieredCache.Session.Texts
import TieredCache.Settings.Basic
import TieredCache.Settings.Read
import TieredCache.Signal
import TieredCache.Text.Basic
import TieredCache.Text.Quoted
import TieredCache.Time.Calendar
import TieredCache.Time.Clock
import TieredCache.Time.MailDate
import TieredCache.Time.Millis
import TieredCache.Time.SpanPhrase
import TieredCache.Time.Stamp
import TieredCache.Url.Basic
import TieredCache.Url.Host
import TieredCache.Url.Name.Composition
import TieredCache.Url.Name.Direction
import TieredCache.Url.Name.Domain
import TieredCache.Url.Name.Form
import TieredCache.Url.Name.Joining
import TieredCache.Url.Name.Punycode
import TieredCache.Url.Name.Row
import TieredCache.Url.Percent
import TieredCache.Url.Segments
import TieredCache.Yaml.Block
import TieredCache.Yaml.Cursor
import TieredCache.Yaml.Node
import TieredCache.Yaml.Scalar
import TieredCache.Yaml.Tag
import TieredCache.Yaml.Token
