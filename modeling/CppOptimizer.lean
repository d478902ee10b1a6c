import CppOptimizer.Lib.Run
import CppOptimizer.Lib.Prog
import CppOptimizer.Lib.Monitor
import CppOptimizer.Lib.SortedMap
import CppOptimizer.Lib.Moves
import CppOptimizer.Lib.Int64
import CppOptimizer.Lib.Strings
import CppOptimizer.Lib.Tokens
import CppOptimizer.Lib.Toml
import CppOptimizer.Lib.Utf16
import CppOptimizer.Lib.Upsert
import CppOptimizer.Lib.FirstFree
import CppOptimizer.Common.Error
import CppOptimizer.Common.Text
import CppOptimizer.Config.Version
import CppOptimizer.Config.Snapshot
import CppOptimizer.Config.GameRules
import CppOptimizer.Config.TomlString
import CppOptimizer.Config.RuleFile
import CppOptimizer.Config.Loader
import CppOptimizer.Process.UniqueId
import CppOptimizer.Process.Matching
import CppOptimizer.Process.AddGame
import CppOptimizer.Process.Info
import CppOptimizer.Process.Watcher
import CppOptimizer.Process.Generations
import CppOptimizer.Process.Lifecycle
import CppOptimizer.Process.PollOnce
import CppOptimizer.Process.PollAgreement
import CppOptimizer.Process.PolledTitles
import CppOptimizer.Process.WatcherThread
import CppOptimizer.Process.WatcherStops
import CppOptimizer.Process.HeardLives
import CppOptimizer.Process.Table
import CppOptimizer.Activity.UserActivity
import CppOptimizer.Activity.Observers
import CppOptimizer.Logger.AsyncQueue
import CppOptimizer.Logger.Watermark
import CppOptimizer.Logger.Conservation
import CppOptimizer.Logger.SinkOrder
import CppOptimizer.Logger.DropPolicy
import CppOptimizer.Priority.Booster
import CppOptimizer.Priority.Handles
import CppOptimizer.Priority.ClassReturn
import CppOptimizer.Priority.FailedAcquire
import CppOptimizer.Priority.Watched
import CppOptimizer.Power.Locker
import CppOptimizer.Power.Requests
import CppOptimizer.Power.SchemeRecord
import CppOptimizer.Power.SchemeFlow
import CppOptimizer.Power.CrashSafety
import CppOptimizer.Power.Origin
import CppOptimizer.Power.TornRecord
import CppOptimizer.Policy.Engine
import CppOptimizer.Policy.Hysteresis
import CppOptimizer.Policy.Executor
import CppOptimizer.Policy.Reconcile
import CppOptimizer.Policy.Loop
import CppOptimizer.Policy.SafetyGates
import CppOptimizer.Policy.Cooldown
import CppOptimizer.Policy.LedgerRuns
import CppOptimizer.Policy.LostRecord
import CppOptimizer.Memory.Cleaner
import CppOptimizer.Scheduler.ThreadTuner
import CppOptimizer.Scheduler.Restore
import CppOptimizer.Scheduler.AdjustmentRecord
import CppOptimizer.Command.Actions
import CppOptimizer.Command.GateAgreement
import CppOptimizer.Command.RateLimit
import CppOptimizer.Command.BoostOutputs
import CppOptimizer.Command.PartialBoost
import CppOptimizer.Audit.Log
import CppOptimizer.Audit.SummaryTokens
import CppOptimizer.Audit.StrictSummary
import CppOptimizer.Audit.Compaction
import CppOptimizer.Audit.Counts
import CppOptimizer.Audit.Progress
import CppOptimizer.Audit.Fold
import CppOptimizer.Ipc.Protocol
import CppOptimizer.Ipc.Facts
import CppOptimizer.Ipc.FactsCodec
import CppOptimizer.Ipc.Session
import CppOptimizer.Ipc.Verdict
import CppOptimizer.Ipc.ConcurrentServer
import CppOptimizer.Ipc.Authorization
import CppOptimizer.Ipc.RoundTrip
import CppOptimizer.Ipc.Agreement
import CppOptimizer.Ipc.Client
import CppOptimizer.Ipc.Pacing
import CppOptimizer.Ipc.Reporter
import CppOptimizer.Ipc.ReportCycles
import CppOptimizer.Service.SafeMode
import CppOptimizer.Service.Recovery
import CppOptimizer.Service.Confirmation
import CppOptimizer.Service.Presence
import CppOptimizer.Service.PresenceHistory
import CppOptimizer.Service.Workload
import CppOptimizer.Service.HostSurvival
import CppOptimizer.Service.Provenance
import CppOptimizer.Service.SummaryAdvance
import CppOptimizer.Service.StatusReports
import CppOptimizer.Policy.Calls
import CppOptimizer.Policy.Halting
import CppOptimizer.Policy.ExitRelease
import CppOptimizer.Audit.SizeLimits
import CppOptimizer.Policy.Audited
import CppOptimizer.Ipc.TornFrames
import CppOptimizer.Audit.ReadBack
import CppOptimizer.Audit.Records
import CppOptimizer.Audit.Journal
import CppOptimizer.Ipc.FactsSummary
import CppOptimizer.Ipc.Credential
import CppOptimizer.Ipc.TokenFile
import CppOptimizer.Ipc.AgentReport
import CppOptimizer.Service.AgentForm
import CppOptimizer.Service.Registration
import CppOptimizer.Service.FormConvergence
import CppOptimizer.Service.FormOutcome
import CppOptimizer.Service.FormTrail
import CppOptimizer.Service.TrayHost
import CppOptimizer.Command.AddGame
import CppOptimizer.Command.AddGameRuns
import CppOptimizer.Command.AddedRule
