import TelemetryLab.Cache.Accounting
import TelemetryLab.Cache.Invalidation
import TelemetryLab.Jobs.Consistency
import TelemetryLab.Jobs.Custody
import TelemetryLab.Jobs.Lifecycle
import TelemetryLab.Jobs.StateMachine
import TelemetryLab.Training.Hpo
import TelemetryLab.Training.ModelRuns
import TelemetryLab.Training.Worker
import TelemetryLab.Training.Bodies
import TelemetryLab.Training.World
import TelemetryLab.Jobs.Threads
import TelemetryLab.Training.Steps
import TelemetryLab.Training.TerminalStatus
import TelemetryLab.Training.Cancellation
import TelemetryLab.Training.Stranded
import TelemetryLab.Scoring.Worker
import TelemetryLab.Scoring.Uniqueness
import TelemetryLab.Lib.Guard
import TelemetryLab.Guards
import TelemetryLab.Generation.Conservation
import TelemetryLab.Fleet
import TelemetryLab.Lib.References
import TelemetryLab.Datasets.Deletion
import TelemetryLab.Lib.Arith
import TelemetryLab.Pca.Linalg
import TelemetryLab.Pca.Trainer
import TelemetryLab.Pca.Model
import TelemetryLab.Pca.Agreement
import TelemetryLab.Pca.BatchIterator
import TelemetryLab.Alerts.AlertManager
import TelemetryLab.Alerts.DetectorA
import TelemetryLab.Lib.Window
import TelemetryLab.Alerts.DetectorWindow
import TelemetryLab.Alerts.Scorer
import TelemetryLab.Lib.Paging
import TelemetryLab.Scoring.ExactlyOnce
import TelemetryLab.Pool.Connections
import TelemetryLab.Pool.Wakeups
import TelemetryLab.Scoring.LiveJobs
import TelemetryLab.Jobs.SingleUse
import TelemetryLab.Lib.Tally
import TelemetryLab.Training.Ids
import TelemetryLab.StopFlags
import TelemetryLab.Training.ParentStatus
import TelemetryLab.Training.Reaping
import TelemetryLab.Training.Metrics
import TelemetryLab.Models.Handlers
import TelemetryLab.Models.Summaries
import TelemetryLab.Lib.Arrangement
import TelemetryLab.Lib.Delimited
import TelemetryLab.Training.Fingerprint
import TelemetryLab.Lib.Projection
import TelemetryLab.Pca.Jacobi
import TelemetryLab.Pca.Threshold
import TelemetryLab.Models.BestTrial
import TelemetryLab.Alerts.Translation
import TelemetryLab.Cache.Sequential
import TelemetryLab.Lib.PlaneRotation
import TelemetryLab.Pca.JacobiInvariants
import TelemetryLab.Lib.Comoment
import TelemetryLab.Pca.RunningStats
import TelemetryLab.Lib.Decimal
import TelemetryLab.Models.Timestamps
import TelemetryLab.Training.TrialParams
import TelemetryLab.Jobs.FailedStart
import TelemetryLab.Server.Requests
import TelemetryLab.Server.TrainModel
import TelemetryLab.Server.Inference
import TelemetryLab.Generation.Records
import TelemetryLab.Models.CalendarTime
import TelemetryLab.Generation.Ticks
import TelemetryLab.Generation.BadInput
import TelemetryLab.Pca.Loading
import TelemetryLab.Pca.CommandLine
import TelemetryLab.Analytics.TimeSeries
import TelemetryLab.Analytics.PreviousPeriod
import TelemetryLab.Analytics.Histogram
import TelemetryLab.Server.Rerun
import TelemetryLab.Pca.Percentile
import TelemetryLab.Alerts.RobustStats
import TelemetryLab.Pca.ComponentSign
import TelemetryLab.Analytics.EvalMetrics
import TelemetryLab.Models.IsoTexts
import TelemetryLab.Analytics.RecordPaging
import TelemetryLab.Analytics.ScorePaging
import TelemetryLab.Analytics.TopK
import TelemetryLab.Datasets.Partitions
import TelemetryLab.Jobs.Reconciler
import TelemetryLab.Lib.PathPattern
import TelemetryLab.Lib.PrincipalAxes
import TelemetryLab.Pca.Variance
import TelemetryLab.Server.Routes
import TelemetryLab.Analytics.ChartBuckets
import TelemetryLab.Analytics.DatasetSummary
import TelemetryLab.Lib.Scopes
import TelemetryLab.Obs.RequestLog
import TelemetryLab.Generation.Bounds
import TelemetryLab.Jobs.JobMetrics
import TelemetryLab.Training.Concurrency
import TelemetryLab.Alerts.Gating
import TelemetryLab.Analytics.ErrorDistribution
