import LoadTest.Analysis.Analyzer
import LoadTest.Config.Environment
import LoadTest.Config.File
import LoadTest.Config.Validation
import LoadTest.Distribution.Run
import LoadTest.Event
import LoadTest.Json.Printer
import LoadTest.Json.Reader
import LoadTest.Log.Setup
import LoadTest.Ramp
import LoadTest.Run.Generator
import LoadTest.Proofs.RunPassage
import LoadTest.Proofs.RequestConservation
import LoadTest.Proofs.EventGrammar
import LoadTest.Proofs.Collections
import LoadTest.Proofs.MergeAdditivity
import LoadTest.Proofs.PairedFigures
import LoadTest.Proofs.TrendSeries
import LoadTest.Proofs.BaselineIndependence
import LoadTest.Proofs.AnalysisHistory
import LoadTest.Proofs.ReportOrder
import LoadTest.Proofs.InFlightBounds
import LoadTest.Proofs.FloatRounding
import LoadTest.Proofs.ArrivalIntervals
import LoadTest.Proofs.Cancellation
import LoadTest.Proofs.WorkerShares
import LoadTest.Proofs.DistributedInFlight
import LoadTest.Proofs.Calendar
import LoadTest.Proofs.TextForms
import LoadTest.Proofs.DecimalRounding
import LoadTest.Proofs.JsonRecords
import LoadTest.Proofs.LosslessReports
import LoadTest.Proofs.DistributedLossless
import LoadTest.Proofs.JsonText
import LoadTest.Proofs.ArrivalAccounting
import LoadTest.Proofs.PartitionPlan
import LoadTest.Proofs.WorkerSpecs
import LoadTest.Proofs.ThroughputWindows
import LoadTest.Proofs.ReportCounts
import LoadTest.Proofs.Findings
import LoadTest.Proofs.ConfigValidation
import LoadTest.Proofs.WindowWidths
import LoadTest.Proofs.BottleneckDetection
import LoadTest.Proofs.EnvironmentOverride
import LoadTest.Proofs.SignedFloats
import LoadTest.Proofs.ComparisonOrder
import LoadTest.Proofs.RampTiling
import LoadTest.Proofs.RequestNumbers
import LoadTest.Proofs.ResourceShares
import LoadTest.Proofs.ExactFigures
import LoadTest.Proofs.Percentiles
import LoadTest.Proofs.LeastSquares
import LoadTest.Proofs.MeasurementOrder
import LoadTest.Proofs.HoldDeadlines
import LoadTest.Proofs.BurstCourses
import LoadTest.Proofs.MemoryLeaks
import LoadTest.Proofs.OutcomeTimes
import LoadTest.Proofs.ProgressCadence
import LoadTest.Proofs.StoredBaselines
import LoadTest.Proofs.SeriesSums
