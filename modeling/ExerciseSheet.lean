import ExerciseSheet.AutoCompile
import ExerciseSheet.Buffer
import ExerciseSheet.Carrier.Shipped
import ExerciseSheet.Catalog.Reading
import ExerciseSheet.Catalog.Shipped
import ExerciseSheet.Cli.Run
import ExerciseSheet.Compiler.Basic
import ExerciseSheet.Export
import ExerciseSheet.Job.Queue
import ExerciseSheet.Json.Reader
import ExerciseSheet.Json.Writer
import ExerciseSheet.Log.Message
import ExerciseSheet.Log.Session
import ExerciseSheet.Main
import ExerciseSheet.Proofs.Backspace
import ExerciseSheet.Proofs.BehindInsertion
import ExerciseSheet.Proofs.CaretTarget
import ExerciseSheet.Proofs.CarrierLayout
import ExerciseSheet.Proofs.CaseVariants
import ExerciseSheet.Proofs.Caseless
import ExerciseSheet.Proofs.CatalogIndex
import ExerciseSheet.Proofs.Checkpoint
import ExerciseSheet.Proofs.Command
import ExerciseSheet.Proofs.CompilerRuns
import ExerciseSheet.Proofs.Countdown
import ExerciseSheet.Proofs.CutOut
import ExerciseSheet.Proofs.Decimal
import ExerciseSheet.Proofs.DetectorNews
import ExerciseSheet.Proofs.Editing
import ExerciseSheet.Proofs.ErrorPlace
import ExerciseSheet.Proofs.ExportFiles
import ExerciseSheet.Proofs.Exporting
import ExerciseSheet.Proofs.Fields
import ExerciseSheet.Proofs.FileWriting
import ExerciseSheet.Proofs.FirstWay
import ExerciseSheet.Proofs.FreshSheet
import ExerciseSheet.Proofs.Gaps
import ExerciseSheet.Proofs.History
import ExerciseSheet.Proofs.Hits
import ExerciseSheet.Proofs.HostEvents
import ExerciseSheet.Proofs.InputFiles
import ExerciseSheet.Proofs.LabelSlices
import ExerciseSheet.Proofs.Landing
import ExerciseSheet.Proofs.LeastPlaces
import ExerciseSheet.Proofs.LeftmostMatches
import ExerciseSheet.Proofs.LineLayout
import ExerciseSheet.Proofs.LiveText
import ExerciseSheet.Proofs.LowerInPlace
import ExerciseSheet.Proofs.MarkerGrammar
import ExerciseSheet.Proofs.Marking
import ExerciseSheet.Proofs.Matching
import ExerciseSheet.Proofs.MathReading
import ExerciseSheet.Proofs.Narrowing
import ExerciseSheet.Proofs.Needle
import ExerciseSheet.Proofs.Occurrence
import ExerciseSheet.Proofs.Onward
import ExerciseSheet.Proofs.OpenSession
import ExerciseSheet.Proofs.Outstanding
import ExerciseSheet.Proofs.OwnFaults
import ExerciseSheet.Proofs.Partition
import ExerciseSheet.Proofs.QuietPeriod
import ExerciseSheet.Proofs.RankOrder
import ExerciseSheet.Proofs.Replacement
import ExerciseSheet.Proofs.Reporting
import ExerciseSheet.Proofs.Resegmenting
import ExerciseSheet.Proofs.ScanMeaning
import ExerciseSheet.Proofs.ScoreBands
import ExerciseSheet.Proofs.Seam
import ExerciseSheet.Proofs.Sequencing
import ExerciseSheet.Proofs.SettingLines
import ExerciseSheet.Proofs.StableRanking
import ExerciseSheet.Proofs.TextCut
import ExerciseSheet.Proofs.Trimming
import ExerciseSheet.Proofs.Typing
import ExerciseSheet.Proofs.UntouchedStarter
import ExerciseSheet.Segment
import ExerciseSheet.Settings.Review
import ExerciseSheet.Starter
