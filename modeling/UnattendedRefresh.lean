import UnattendedRefresh.Json.Reader
import UnattendedRefresh.Json.Writer
import UnattendedRefresh.Duration.Grammar
import UnattendedRefresh.Settings.Json
import UnattendedRefresh.Pool.Bench
import UnattendedRefresh.Records.Spelling
import UnattendedRefresh.Rehearsal.Play
import UnattendedRefresh.Rehearsal.Performance
import UnattendedRefresh.Http.Router
import UnattendedRefresh.Config.Variables
import UnattendedRefresh.Config.Process
import UnattendedRefresh.Settings.Reload
import UnattendedRefresh.Storage.Rows
import UnattendedRefresh.CommandLine
import UnattendedRefresh.Collaborators.Credentials
import UnattendedRefresh.Collaborators.SiteManagement
import UnattendedRefresh.Rehearsal.Replies
import UnattendedRefresh.Rehearsal.Tick
import UnattendedRefresh.Services.Signals
import UnattendedRefresh.Services.Web
import UnattendedRefresh.Environment.File
import UnattendedRefresh.Journal.Filter
import UnattendedRefresh.Journal.Line
import UnattendedRefresh.Storage.Address
import UnattendedRefresh.Release
import UnattendedRefresh.Program
import UnattendedRefresh.Main
import UnattendedRefresh.Proofs.Wheel.DueMinutes
import UnattendedRefresh.Proofs.Pool.Completion
import UnattendedRefresh.Proofs.Dispatch.Orders
import UnattendedRefresh.Proofs.MinutePass.Questions
import UnattendedRefresh.Proofs.Trigger.Tasks
import UnattendedRefresh.Proofs.Trigger.Turns
import UnattendedRefresh.Proofs.Trigger.Entitlement
import UnattendedRefresh.Proofs.MinutePass.Shares
import UnattendedRefresh.Proofs.Trigger.Day
import UnattendedRefresh.Proofs.Trigger.Driving
import UnattendedRefresh.Proofs.Pool.Occupancy
import UnattendedRefresh.Proofs.MinutePass.Selection
import UnattendedRefresh.Proofs.Trigger.Pools
import UnattendedRefresh.Proofs.Trigger.Shutdown
import UnattendedRefresh.Proofs.MinutePass.Account
import UnattendedRefresh.Proofs.Trigger.Calls
import UnattendedRefresh.Proofs.Dispatch.Verdicts
import UnattendedRefresh.Proofs.MinutePass.InStep
import UnattendedRefresh.Proofs.Trigger.Snapshots
import UnattendedRefresh.Proofs.Trigger.Isolation
import UnattendedRefresh.Proofs.Settings.LastGood
import UnattendedRefresh.Proofs.Settings.Handle
import UnattendedRefresh.Proofs.Procedure.Entries
import UnattendedRefresh.Proofs.MinutePass.Clamping
import UnattendedRefresh.Proofs.Trigger.Reloads
import UnattendedRefresh.Proofs.Trigger.Lodging
import UnattendedRefresh.Proofs.Procedure.Treatment
import UnattendedRefresh.Proofs.Trigger.Strides
import UnattendedRefresh.Proofs.Trigger.Fairness
import UnattendedRefresh.Proofs.Trigger.Settling
import UnattendedRefresh.Proofs.Trigger.Failures
import UnattendedRefresh.Proofs.Trigger.Moments
import UnattendedRefresh.Proofs.Trigger.Fetches
import UnattendedRefresh.Proofs.Trigger.OneOff
import UnattendedRefresh.Proofs.Trigger.Spacing
import UnattendedRefresh.Proofs.Identifier.Bytes
import UnattendedRefresh.Proofs.Storage.Ranges
import UnattendedRefresh.Proofs.Dispatch.Conclusions
import UnattendedRefresh.Proofs.Collaborators.Confirmations
import UnattendedRefresh.Proofs.Config.Merging
import UnattendedRefresh.Proofs.Toml.Tables
import UnattendedRefresh.Proofs.Procedure.Parallel
import UnattendedRefresh.Proofs.Settings.Precedence
import UnattendedRefresh.Proofs.Dispatch.Waivers
import UnattendedRefresh.Proofs.Trigger.Insistence
import UnattendedRefresh.Proofs.Services.Ticks
import UnattendedRefresh.Proofs.Pool.Desk
import UnattendedRefresh.Proofs.Trigger.Upshots
import UnattendedRefresh.Proofs.Trigger.Separation
import UnattendedRefresh.Proofs.Identifier.Spellings
import UnattendedRefresh.Proofs.Http.Admissions
import UnattendedRefresh.Proofs.Services.Closings
import UnattendedRefresh.Proofs.Services.Superintendence
import UnattendedRefresh.Proofs.Services.Honesty
import UnattendedRefresh.Proofs.Duration.Numbers
import UnattendedRefresh.Proofs.Config.Words
import UnattendedRefresh.Proofs.Config.Durations
import UnattendedRefresh.Proofs.Settings.Endurance
import UnattendedRefresh.Proofs.Application.Sizes
import UnattendedRefresh.Proofs.Dispatch.Settlement
import UnattendedRefresh.Proofs.Eligibility.Rules
import UnattendedRefresh.Proofs.Eligibility.Throttle
import UnattendedRefresh.Proofs.Config.Variables
import UnattendedRefresh.Proofs.Services.Collection
import UnattendedRefresh.Proofs.Toml.Nesting
import UnattendedRefresh.Proofs.Settings.Fields
import UnattendedRefresh.Proofs.Settings.Layering
import UnattendedRefresh.Proofs.Wheel.Spans
import UnattendedRefresh.Proofs.Text.Digits
import UnattendedRefresh.Proofs.Duration.Rounding
import UnattendedRefresh.Proofs.Http.Echoes
import UnattendedRefresh.Proofs.Json.Literals
import UnattendedRefresh.Proofs.Json.Readings
import UnattendedRefresh.Proofs.Ordered.Listings
import UnattendedRefresh.Proofs.Config.Translation
import UnattendedRefresh.Proofs.Settings.Forms
