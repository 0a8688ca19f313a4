import PowerRota.Calendar.Date
import PowerRota.Calendar.Instant
import PowerRota.Calendar.Location
import PowerRota.Calendar.Rfc3339
import PowerRota.Calendar.TimeOfDay
import PowerRota.Calendar.Timetable
import PowerRota.Calendar.Timetable.AfricaAsia
import PowerRota.Calendar.Timetable.America
import PowerRota.Calendar.Timetable.Europe
import PowerRota.Calendar.Timetable.Oceania
import PowerRota.Calendar.Zone
import PowerRota.CommandLine.Arguments
import PowerRota.CommandLine.Parameter
import PowerRota.CommandLine.Usage
import PowerRota.CommandLine.Word
import PowerRota.Config.Conversion
import PowerRota.Config.Document
import PowerRota.Config.File
import PowerRota.Config.Layers
import PowerRota.Config.Settings
import PowerRota.Config.Value
import PowerRota.Credentials
import PowerRota.Cron.Expression
import PowerRota.Cron.Reader
import PowerRota.Cron.Search
import PowerRota.Cron.Weekday
import PowerRota.Daemon
import PowerRota.Data.Fault
import PowerRota.Digest.Sha256
import PowerRota.Duration
import PowerRota.Duration.Codec
import PowerRota.Error
import PowerRota.Executor
import PowerRota.Files.Listing
import PowerRota.Files.Path
import PowerRota.Files.Tree
import PowerRota.Firing.Rule
import PowerRota.Json.Basic
import PowerRota.Json.Decode
import PowerRota.Json.Reader
import PowerRota.Json.Writer
import PowerRota.Key.Base64
import PowerRota.Key.Der
import PowerRota.Key.Pem
import PowerRota.Key.Rsa
import PowerRota.Launch
import PowerRota.Main
import PowerRota.Manifest
import PowerRota.Manifest.Decode
import PowerRota.Manifest.Document
import PowerRota.Manifest.Folder
import PowerRota.Manifest.Message
import PowerRota.Metrics
import PowerRota.Metrics.Exposition
import PowerRota.Number.Binary64
import PowerRota.Number.Float
import PowerRota.Proofs.Calendar.Months
import PowerRota.Proofs.Calendar.Occurrences
import PowerRota.Proofs.Calendar.TimeNotation
import PowerRota.Proofs.Calendar.Writing
import PowerRota.Proofs.Config.Effective
import PowerRota.Proofs.Config.Precedence
import PowerRota.Proofs.Cron.ClassicWeekdays
import PowerRota.Proofs.Cron.Clock
import PowerRota.Proofs.Cron.FieldWords
import PowerRota.Proofs.Cron.Search
import PowerRota.Proofs.Cron.Walk
import PowerRota.Proofs.Cron.WeekdayNames
import PowerRota.Proofs.Cron.WeekdayReading
import PowerRota.Proofs.Cron.WellFormed
import PowerRota.Proofs.Daemon.Run
import PowerRota.Proofs.Daemon.Tally
import PowerRota.Proofs.Data.Steps
import PowerRota.Proofs.Duration.Loading
import PowerRota.Proofs.Duration.Notation
import PowerRota.Proofs.Duration.Overflow
import PowerRota.Proofs.Duration.Tokens
import PowerRota.Proofs.Executor.Answers
import PowerRota.Proofs.Executor.Contract
import PowerRota.Proofs.Executor.Exclusion
import PowerRota.Proofs.Executor.OneCall
import PowerRota.Proofs.Executor.Run
import PowerRota.Proofs.Executor.Slot
import PowerRota.Proofs.Firing.CalendarRules
import PowerRota.Proofs.Firing.Candidates
import PowerRota.Proofs.Firing.Fires
import PowerRota.Proofs.Firing.LastFire
import PowerRota.Proofs.Firing.LocalTime
import PowerRota.Proofs.Firing.Lookback
import PowerRota.Proofs.Firing.Progress
import PowerRota.Proofs.Manifest.Acceptance
import PowerRota.Proofs.Manifest.Listing
import PowerRota.Proofs.Manifest.Loading
import PowerRota.Proofs.Manifest.Signature
import PowerRota.Proofs.Number.Doubles
import PowerRota.Proofs.Provider.Sharing
import PowerRota.Proofs.Provider.Submission
import PowerRota.Proofs.Provider.Tokens
import PowerRota.Proofs.Reconciliation.Agreement
import PowerRota.Proofs.Reconciliation.Convergence
import PowerRota.Proofs.Reconciliation.Enquiries
import PowerRota.Proofs.Reconciliation.Estate
import PowerRota.Proofs.Reload.Attempts
import PowerRota.Proofs.Reload.Convergence
import PowerRota.Proofs.Schedule.Jobs
import PowerRota.Proofs.Schedule.RoundTrip
import PowerRota.Proofs.Schedule.Translation
import PowerRota.Proofs.Schedule.Validity
import PowerRota.Proofs.Scheduler.Chain
import PowerRota.Proofs.Scheduler.Closing
import PowerRota.Proofs.Scheduler.Dismissal
import PowerRota.Proofs.Scheduler.Handover
import PowerRota.Proofs.Scheduler.Ledger
import PowerRota.Proofs.Scheduler.OneTime
import PowerRota.Proofs.Scheduler.Onward
import PowerRota.Proofs.Scheduler.Permits
import PowerRota.Proofs.Scheduler.Queue
import PowerRota.Proofs.Scheduler.Register
import PowerRota.Proofs.Scheduler.Reload
import PowerRota.Proofs.Scheduler.Run
import PowerRota.Proofs.Scheduler.Single
import PowerRota.Proofs.Scheduler.Swap
import PowerRota.Proofs.Scheduler.Turn
import PowerRota.Proofs.Shutdown.Conduct
import PowerRota.Proofs.Shutdown.Draining
import PowerRota.Proofs.Shutdown.Orderly
import PowerRota.Proofs.Shutdown.Run
import PowerRota.Proofs.Shutdown.Tracking
import PowerRota.Proofs.Text.Cutting
import PowerRota.Proofs.Text.Digits
import PowerRota.Proofs.Web.Readiness
import PowerRota.Provider.Callers
import PowerRota.Provider.Client
import PowerRota.Provider.Exchange
import PowerRota.Provider.Operation
import PowerRota.Provider.Script
import PowerRota.Provider.Status
import PowerRota.Provider.Token
import PowerRota.Reconciliation.Expected
import PowerRota.Reconciliation.Pass
import PowerRota.Rehearsal.Basic
import PowerRota.Rehearsal.Cloud
import PowerRota.Rehearsal.Course
import PowerRota.Rehearsal.Log
import PowerRota.Rehearsal.Step
import PowerRota.Rehearsal.Turn
import PowerRota.Reload
import PowerRota.Resource
import PowerRota.Schedule
import PowerRota.Schedule.Codec
import PowerRota.Schedule.Jobs
import PowerRota.Schedule.Listing
import PowerRota.Scheduler.Basic
import PowerRota.Scheduler.Register
import PowerRota.Scheduler.Step
import PowerRota.Shutdown
import PowerRota.Text.Blank
import PowerRota.Text.Decimal
import PowerRota.Text.Quoted
import PowerRota.Text.Unprintable
import PowerRota.Trigger
import PowerRota.Trigger.Codec
import PowerRota.Web.Response
import PowerRota.Web.Target
import PowerRota.Yaml.Character
import PowerRota.Yaml.Cursor
import PowerRota.Yaml.Decode
import PowerRota.Yaml.Fault
import PowerRota.Yaml.Layout
import PowerRota.Yaml.Node
import PowerRota.Yaml.Scalar.Block
import PowerRota.Yaml.Scalar.Plain
import PowerRota.Yaml.Scalar.Quoted
import PowerRota.Yaml.Token
import PowerRota.Yaml.Value
