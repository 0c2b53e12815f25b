import CronLint.Main
import CronLint.Schedule.Memo
import CronLint.Proofs.Dates
import CronLint.Proofs.FirstRuns
import CronLint.Proofs.Grammar
import CronLint.Proofs.Projection
import CronLint.Proofs.Spelling
import CronLint.Proofs.TwoReadings
import CronLint.Proofs.Encoding
import CronLint.Proofs.Sources
import CronLint.Proofs.Triggers
import CronLint.Proofs.Clockwork
import CronLint.Proofs.MemoRuns
import CronLint.Proofs.Inspections
import CronLint.Proofs.YearlyDates
import CronLint.Proofs.Horizons
import CronLint.Proofs.EmptySchedules
import CronLint.Proofs.Answers
import CronLint.Proofs.Findings
import CronLint.Proofs.RunDays
import CronLint.Proofs.YearlyRuns
import CronLint.Proofs.DayConflicts
import CronLint.Proofs.UnitSteps
import CronLint.Proofs.ReportParts
import CronLint.Proofs.JobCounts
import CronLint.Proofs.JobLines
import CronLint.Proofs.ReadJobs
import CronLint.Proofs.SingleChecks
import CronLint.Proofs.RequestLimits
import CronLint.Proofs.RunCounts
import CronLint.Proofs.WindowEnds
import CronLint.Proofs.OptionalChecks
import CronLint.Proofs.OverlapWindows
import CronLint.Proofs.OverlapRanking
import CronLint.Proofs.JobOrder
import CronLint.Proofs.WiderWindows
import CronLint.Proofs.ReadFailures
import CronLint.Proofs.Acceptance
import CronLint.Proofs.ParseVerdicts
import CronLint.Proofs.BoundViolations
import CronLint.Proofs.SmallLetters
import CronLint.Proofs.Respelling
import CronLint.Proofs.ReportedOverlaps
import CronLint.Proofs.Counting
import CronLint.Proofs.RunningTotals
import CronLint.Proofs.DayStatistics
import CronLint.Proofs.SkippedJobs
import CronLint.Proofs.LoadedSettings
import CronLint.Proofs.LineShapes
import CronLint.Proofs.StepAdvice
import CronLint.Proofs.ExitStatus
import CronLint.Proofs.Durations
import CronLint.Proofs.Rankings
import CronLint.Proofs.FieldQueries
import CronLint.Proofs.CommaLists
import CronLint.Analysis.Inspection
import CronLint.Proofs.Inspections
