import Wolt.Python.Text
import Wolt.Python.IpAddress
import Wolt.Python.Dict
import Wolt.Python.Double
import Wolt.Wake.MagicPacket
import Wolt.Wake.FortigateCommand
import Wolt.Wake.FortigateDriver
import Wolt.Program.Basic
import Wolt.Program.Pool
import Wolt.Program.RelyGuarantee
import Wolt.Program.ReadCommitted
import Wolt.Program.TransactionRules
import Wolt.Program.Journal
import Wolt.Program.Hoare
import Wolt.Program.Trace
import Wolt.Program.Serial
import Wolt.Program.Turns
import Wolt.Program.Assumptions
import Wolt.Program.CallHistory
import Wolt.Program.Table
import Wolt.Program.Paging
import Wolt.Program.FileTree
import Wolt.Operations.Database
import Wolt.Operations.Listeners
import Wolt.Operations.PortRange
import Wolt.Operations.Devices
import Wolt.Operations.Edits
import Wolt.Operations.Allocation
import Wolt.Engine.Runtime
import Wolt.Engine.Resume
import Wolt.Engine.Pause
import Wolt.Engine.Routes
import Wolt.Engine.Configuration
import Wolt.Engine.StoredState
import Wolt.Engine.Isolation
import Wolt.Engine.Deletions
import Wolt.Engine.Statuses
import Wolt.Engine.Reconcile
import Wolt.Engine.Datagrams
import Wolt.Engine.RateLimits
import Wolt.Engine.ListenerThreads
import Wolt.Engine.Cooldown
import Wolt.Identity.Database
import Wolt.Identity.Services
import Wolt.Identity.LastOwner
import Wolt.Identity.Tables
import Wolt.HostAgent.EnvFile
import Wolt.HostAgent.State
import Wolt.HostAgent.Host
import Wolt.HostAgent.Frame
import Wolt.HostAgent.Layout
import Wolt.HostAgent.Controller
import Wolt.HostAgent.Quiet
import Wolt.HostAgent.Threads
import Wolt.HostAgent.Jobs
import Wolt.HostAgent.StateFile
import Wolt.HostAgent.Firewall
import Wolt.HostAgent.FailedDeployment
import Wolt.HostAgent.FileWork
import Wolt.HostAgent.RuntimeFiles
import Wolt.HostAgent.PinnedUpgrade
import Wolt.Identity.Revocation
import Wolt.Identity.SessionHistory
import Wolt.Identity.CurrentUser
import Wolt.Identity.Tokens
import Wolt.Identity.Setup
import Wolt.Identity.Invitations
import Wolt.Identity.Identifiers
import Wolt.Identity.DisabledUser
import Wolt.Identity.FailedInvitation
import Wolt.Identity.ResetRequest
import Wolt.Identity.ResetLinks
import Wolt.Identity.AttemptLimits
import Wolt.Operations.Versions
import Wolt.Program.Commits
import Wolt.Operations.Atomicity
import Wolt.Python.Value
import Wolt.Wake.DeviceValidation
import Wolt.Wake.ValidationErrors
import Wolt.Wake.SshCommand
import Wolt.Python.Base64
import Wolt.Crypto.Credentials
import Wolt.Engine.WakeResults
import Wolt.Engine.StoredDictionaries
import Wolt.Engine.HeadlessListener
import Wolt.Engine.MappingNodes
import Wolt.Engine.MappingFile
import Wolt.HostAgent.EnvEdits
import Wolt.HostAgent.FirewallFailures
import Wolt.HostAgent.Sequential
import Wolt.HostAgent.JobRetention
import Wolt.HostAgent.RestoredRuntime
import Wolt.HostAgent.RejectedRollback
import Wolt.HostAgent.ProcessRestarts
import Wolt.HostAgent.RequestHandler
import Wolt.HostAgent.RequestErrors
import Wolt.HostAgent.HostRoutes
import Wolt.HostAgent.ConfiguredRuntime
import Wolt.HostAgent.ReplacedFiles
import Wolt.HostAgent.RestoredLayout
import Wolt.HostAgent.RolledBackRuntime
import Wolt.HostAgent.BackupFiles
import Wolt.HostAgent.TidyBackups
import Wolt.Observability.Events
import Wolt.Observability.EventPages
import Wolt.Program.Patterns
import Wolt.Observability.TextSearch
import Wolt.Observability.Dashboard
import Wolt.HostAgent.JobOutcomes
import Wolt.HostAgent.ReportedState
import Wolt.HostAgent.RepeatedRollback
import Wolt.Program.Completion
import Wolt.HostAgent.Restoration
import Wolt.HostAgent.FailedUpgrade
import Wolt.Program.Components
import Wolt.HostAgent.PublishedRange
import Wolt.Program.Records
import Wolt.Observability.EventExport
import Wolt.Program.Conformance
import Wolt.Identity.Mailer
import Wolt.Identity.MailSettings
import Wolt.Observability.Retention
import Wolt.Observability.CleanupRuns
import Wolt.Program.Batches
import Wolt.Identity.Transactions
import Wolt.Identity.AuditTrail
import Wolt.Program.PathWalk
import Wolt.Web.Spa
import Wolt.Operations.AuditLog
import Wolt.Web.Authorization
