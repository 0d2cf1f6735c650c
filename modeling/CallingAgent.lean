import CallingAgent.Analysis.Accounts
import CallingAgent.Analysis.Budget
import CallingAgent.Analysis.BudgetLedger
import CallingAgent.Analysis.Decisions
import CallingAgent.Analysis.Discovery
import CallingAgent.Analysis.Evaluations
import CallingAgent.Analysis.PollSpacing
import CallingAgent.Analysis.Polling
import CallingAgent.Analysis.QaAccepts
import CallingAgent.Analysis.QaContract
import CallingAgent.Analysis.Repository
import CallingAgent.Analysis.StateMachine
import CallingAgent.Analysis.Transcript
import CallingAgent.Analysis.Worker
import CallingAgent.Conversation.LostTurns
import CallingAgent.Conversation.MemoryStore
import CallingAgent.Conversation.OptOutEnforced
import CallingAgent.Conversation.Orchestrator
import CallingAgent.Conversation.Policy
import CallingAgent.Conversation.Progress
import CallingAgent.Lib.ConsumerGroup
import CallingAgent.Lib.CsvText
import CallingAgent.Lib.Dialogue
import CallingAgent.Lib.Excerpt
import CallingAgent.Lib.FixedWindow
import CallingAgent.Lib.IpAddress
import CallingAgent.Lib.IpText
import CallingAgent.Lib.JsonText
import CallingAgent.Lib.Keyset
import CallingAgent.Lib.Ledger
import CallingAgent.Lib.LetterCase
import CallingAgent.Lib.MailDate
import CallingAgent.Lib.Purge
import CallingAgent.Lib.RacedThrottle
import CallingAgent.Lib.Renumber
import CallingAgent.Lib.RenumberPlan
import CallingAgent.Lib.RenumberWalk
import CallingAgent.Lib.Run
import CallingAgent.Lib.SortedSet
import CallingAgent.Lib.Spacing
import CallingAgent.Lib.Statements
import CallingAgent.Lib.Streak
import CallingAgent.Lib.Table
import CallingAgent.Lib.Text
import CallingAgent.Lib.Throttle
import CallingAgent.Lib.UnitOfWork
import CallingAgent.Lib.WallClock
import CallingAgent.Lib.Words
import CallingAgent.Lifecycle.Erasure
import CallingAgent.Lifecycle.ErasureComplete
import CallingAgent.Lifecycle.LegalHold
import CallingAgent.Lifecycle.Reapplication
import CallingAgent.Lifecycle.Records
import CallingAgent.Lifecycle.Retention
import CallingAgent.Lifecycle.RetentionBatches
import CallingAgent.Lifecycle.RetentionExact
import CallingAgent.Lifecycle.RetentionPolicy
import CallingAgent.Model.Database
import CallingAgent.Model.Decoded
import CallingAgent.Model.Enums
import CallingAgent.Model.Errors
import CallingAgent.Model.Phone
import CallingAgent.Model.Records
import CallingAgent.Model.Redis
import CallingAgent.Model.Settings
import CallingAgent.Model.Suppressions
import CallingAgent.Queue.Admission
import CallingAgent.Queue.AdmissionSafety
import CallingAgent.Queue.AnalysisStream
import CallingAgent.Queue.DeadLetters
import CallingAgent.Queue.JobText
import CallingAgent.Queue.LeaseSafety
import CallingAgent.Queue.Leases
import CallingAgent.Queue.LetterRuns
import CallingAgent.Queue.Payload
import CallingAgent.Queue.ScheduleText
import CallingAgent.Queue.Stream
import CallingAgent.Queue.StreamContent
import CallingAgent.Queue.StreamSafety
import CallingAgent.Services.Analysis
import CallingAgent.Services.BodyLimit
import CallingAgent.Services.BudgetDays
import CallingAgent.Services.CallStatus
import CallingAgent.Services.CallingWindow
import CallingAgent.Services.Campaigns
import CallingAgent.Services.CircuitBreaker
import CallingAgent.Services.ClaimedJob
import CallingAgent.Services.ClientAddress
import CallingAgent.Services.ControlVisibility
import CallingAgent.Services.CsvFiles
import CallingAgent.Services.Dial
import CallingAgent.Services.DialGates
import CallingAgent.Services.Dialer
import CallingAgent.Services.Dispatch
import CallingAgent.Services.DncCopy
import CallingAgent.Services.DncRestore
import CallingAgent.Services.DograhOutcome
import CallingAgent.Services.DograhWebhook
import CallingAgent.Services.Eligibility
import CallingAgent.Services.Enqueue
import CallingAgent.Services.EnqueueScan
import CallingAgent.Services.LoginBound
import CallingAgent.Services.LoginThrottle
import CallingAgent.Services.NumberImport
import CallingAgent.Services.OptOut
import CallingAgent.Services.OutboundControl
import CallingAgent.Services.OutboundGate
import CallingAgent.Services.OutcomeRetry
import CallingAgent.Services.ProviderHealth
import CallingAgent.Services.RateIdentity
import CallingAgent.Services.Reconciliation
import CallingAgent.Services.Recovery
import CallingAgent.Services.Redelivery
import CallingAgent.Services.Renormalize
import CallingAgent.Services.RenormalizeSuppressed
import CallingAgent.Services.RequestLimits
import CallingAgent.Services.RetryAfter
import CallingAgent.Services.RetryPolicy
import CallingAgent.Services.RunListing
import CallingAgent.Services.SecurityEvents
import CallingAgent.Services.SpendCap
import CallingAgent.Services.Suppression
import CallingAgent.Services.Sweep
import CallingAgent.Services.TranscriptFetch
import CallingAgent.Services.TranscriptStore
import CallingAgent.Services.WebhookContact
import CallingAgent.Services.WebhookFinality
import CallingAgent.Services.WindowOpening
import CallingAgent.System.Attempts
import CallingAgent.System.Calls
import CallingAgent.System.Closed
import CallingAgent.System.Deliveries
import CallingAgent.System.DialCap
import CallingAgent.System.EventClaims
import CallingAgent.System.LateOutcome
import CallingAgent.System.Model
import CallingAgent.System.Numbers
import CallingAgent.System.OneTrigger
import CallingAgent.System.Onward
import CallingAgent.System.Outcomes
import CallingAgent.System.OwnCampaign
import CallingAgent.System.Pending
import CallingAgent.System.ProviderHold
import CallingAgent.System.Reassociation
import CallingAgent.System.RetryBudget
import CallingAgent.System.RetryEntries
import CallingAgent.System.RetryGate
import CallingAgent.System.Rows
import CallingAgent.System.Schedule
import CallingAgent.System.ServiceRows
import CallingAgent.System.Sweeper
import CallingAgent.System.Traces
import CallingAgent.System.Triggers
import CallingAgent.System.WorkerRows
