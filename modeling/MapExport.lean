import MapExport.Address.Basic
import MapExport.Address.Groups
import MapExport.Address.Host
import MapExport.Address.Read
import MapExport.Database.Answers
import MapExport.Database.Column
import MapExport.Database.Location
import MapExport.Database.Migration
import MapExport.Database.Queries
import MapExport.Database.Schema
import MapExport.Database.Statement
import MapExport.Database.Transaction
import MapExport.Decimal.Binary
import MapExport.Decimal.Layout
import MapExport.Decimal.Shortest
import MapExport.Estimate.Aggregation
import MapExport.Estimate.FileSize
import MapExport.Estimate.Outliers
import MapExport.Expiration.Decision
import MapExport.Expiration.Sweep
import MapExport.Expiration.Warning
import MapExport.Failure
import MapExport.FeatureCount.Counter
import MapExport.FeatureCount.Query
import MapExport.Geocoding.Token
import MapExport.Geometry.Area
import MapExport.Geometry.Basic
import MapExport.Geometry.Check
import MapExport.Geometry.Codec
import MapExport.Hostname.Ascii
import MapExport.Hostname.Direction
import MapExport.Hostname.DirectionTables
import MapExport.Hostname.Joining
import MapExport.Hostname.JoiningTables
import MapExport.Hostname.MappingTable
import MapExport.Hostname.Punycode
import MapExport.Instant.Basic
import MapExport.Instant.Calendar
import MapExport.Instant.Print
import MapExport.Instant.Read
import MapExport.Job.Basic
import MapExport.Job.Codec
import MapExport.Job.Creation
import MapExport.Job.Request
import MapExport.Json.Basic
import MapExport.Json.Codec
import MapExport.Json.Fault
import MapExport.Json.Print
import MapExport.Json.Read
import MapExport.Json.Record
import MapExport.Json.Scan.Numeral
import MapExport.Json.Scan.Quoted
import MapExport.Json.Scan.Sequence
import MapExport.Json.Scan.Skip
import MapExport.Json.Scan.Symbol
import MapExport.Mail.Answer
import MapExport.Mail.Delivery
import MapExport.Mail.Domain
import MapExport.Mail.Folding
import MapExport.Mail.Head
import MapExport.Mail.Letter
import MapExport.Mail.Login
import MapExport.Mail.Mailbox
import MapExport.Main
import MapExport.Preset
import MapExport.Proofs.Job.Atomicity
import MapExport.Proofs.Job.CallOrder
import MapExport.Proofs.Job.Calls
import MapExport.Proofs.Job.Interleaving
import MapExport.Proofs.Job.Order
import MapExport.Proofs.Job.ReadBack
import MapExport.Proofs.Job.Resolution
import MapExport.Proofs.Job.Success
import MapExport.Proofs.Store.JobTables
import MapExport.Proofs.Store.Sessions
import MapExport.Proofs.Workflow.Course
import MapExport.Provider.Basic
import MapExport.Provider.Codec
import MapExport.Queue.Broker
import MapExport.Queue.Place
import MapExport.Queue.Reply
import MapExport.Run.Basic
import MapExport.Run.Codec
import MapExport.Schedule
import MapExport.Service
import MapExport.Settings.Basic
import MapExport.Settings.Choices
import MapExport.Settings.Document
import MapExport.Settings.EnvFile
import MapExport.Slug
import MapExport.Startup
import MapExport.Store.Answers
import MapExport.Store.Basic
import MapExport.Store.Runs
import MapExport.Store.Transaction
import MapExport.Text.Base64
import MapExport.Text.Blank
import MapExport.Text.CaseTables
import MapExport.Text.LetterTables
import MapExport.Text.LowerCase
import MapExport.Text.Normal
import MapExport.Text.NormalTables
import MapExport.Text.Number
import MapExport.Text.Quoted
import MapExport.Text.QuotedTables
import MapExport.Text.Table
import MapExport.Text.Utf8
import MapExport.Uid
import MapExport.Upload
import MapExport.Web.Exchange
import MapExport.Web.Fetch
import MapExport.Web.MediaType
import MapExport.Web.Message
import MapExport.Web.Routes
import MapExport.Workflow
import MapExport.Proofs.Expiration.Fate
import MapExport.Proofs.Expiration.Accounting
import MapExport.Proofs.Expiration.Due
import MapExport.Proofs.Expiration.Grounds
import MapExport.Proofs.Expiration.Rounds
import MapExport.Proofs.Expiration.Warnings
import MapExport.Proofs.Expiration.Retry
import MapExport.Proofs.Job.Presets
import MapExport.Proofs.Job.Soundness
import MapExport.Proofs.Expiration.Reordering
import MapExport.Proofs.Expiration.Overlap
import MapExport.Proofs.Estimate.Averages
import MapExport.Proofs.Estimate.Contributions
import MapExport.Proofs.Estimate.DecidingTask
import MapExport.Proofs.Estimate.Outliers
import MapExport.Proofs.Estimate.Repetition
import MapExport.Proofs.Web.Answers
import MapExport.Proofs.Database.UnreadableRuns
import MapExport.Proofs.Job.TagSource
import MapExport.Proofs.Store.RecentRuns
import MapExport.Proofs.Geocoding.SharedToken
import MapExport.Proofs.Text.LetterCase
import MapExport.Proofs.Text.Numerals
import MapExport.Proofs.Settings.Acceptance
import MapExport.Proofs.Settings.Wiring
import MapExport.Proofs.Instant.Calendar
import MapExport.Proofs.Instant.ReadBack
import MapExport.Proofs.Uid
import MapExport.Proofs.Json.Quoted
import MapExport.Proofs.Json.ReadBack
import MapExport.Proofs.Json.Members
import MapExport.Proofs.Json.Documents
import MapExport.Proofs.Slug
import MapExport.Proofs.Database.RowsBySlug
import MapExport.Proofs.Decimal.Finite
import MapExport.Proofs.Decimal.Shape
import MapExport.Proofs.Geometry.ReadBack
import MapExport.Proofs.Geometry.Usable
import MapExport.Proofs.Job.Acceptance
import MapExport.Proofs.Job.PresetText
import MapExport.Proofs.Job.RequestedSlugs
import MapExport.Proofs.Json.Grammar
import MapExport.Proofs.Json.Numeral
import MapExport.Proofs.Json.Series
import MapExport.Proofs.Expiration.Markup
import MapExport.Proofs.FeatureCount.Reply
import MapExport.Proofs.FeatureCount.Retries
import MapExport.Proofs.FeatureCount.Query
import MapExport.Proofs.Geometry.Redrawing
import MapExport.Proofs.Instant.Bounds
import MapExport.Proofs.Expiration.Escalation
import MapExport.Proofs.Expiration.Stamps
import MapExport.Proofs.Expiration.Endurance
import MapExport.Proofs.Database.TagRows
import MapExport.Proofs.Job.StoredPresets
