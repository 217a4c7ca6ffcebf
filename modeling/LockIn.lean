import LockIn.Accounts.OneTime
import LockIn.Assessment.Deadlines
import LockIn.Assessment.OfflineAnswers
import LockIn.Commerce.ProviderSettlement
import LockIn.Commerce.PaymentChanges
import LockIn.Commerce.RefundLedger
import LockIn.Commerce.RefundQuote
import LockIn.Commerce.RefundReservation
import LockIn.Commerce.Settling
import LockIn.Community.Deletions
import LockIn.Knowledge.Redelivery
import LockIn.Moderation.ClosedReports
import LockIn.Offline.DeliveryOrder
import LockIn.Offline.Durability
import LockIn.Offline.LeaseEnds
import LockIn.Practice.PublishedSets
import LockIn.Pwa.Reloads
import LockIn.Review.BankInvariant
import LockIn.Study.RunInvariant
import LockIn.StudyPlans.Limits
import LockIn.Workspace.SyncSafety
import LockIn.Workspace.ThreeWayMerge
import LockIn.Workspace.Undo
import LockIn.Workspace.WireFormat
import LockIn.Workspace.SheetAdapter
import LockIn.Education.RetiredQuestions
import LockIn.Content.AddedSubjectLimit
import LockIn.Content.ImportSafety
import LockIn.Content.PagePlans
import LockIn.Offline.BundleRuns
import LockIn.Files.ScanClaims
import LockIn.Study.BulkSubmission
import LockIn.Study.PomodoroRanges
import LockIn.Offline.PageSelection
import LockIn.Content.ImportOutcomes
import LockIn.Offline.TestableRuns
import LockIn.Library.JsonText
import LockIn.Library.Rules
import LockIn.Workspace.SnapshotSpec
import LockIn.Knowledge.MapRuns
import LockIn.Practice.NearMisses
import LockIn.Practice.ArchiveAccounts
import LockIn.Motivation.Projections
import LockIn.Review.WeeklyChoice
import LockIn.Files.ProbeOutcomes
import LockIn.Files.ProbedLength
import LockIn.Workspace.SpatialQueries
import LockIn.Offline.DownloadClosure
import LockIn.Workspace.ShareAgreement
import LockIn.Workspace.StrokeSimplification
import LockIn.Progress.ReviewHistory
import LockIn.Workspace.FairRendering
import LockIn.Content.BranchProjection
import LockIn.Questions.ImportedBatches
import LockIn.Files.ByteRanges
import LockIn.Files.ObjectCache
import LockIn.Workspace.SavedWorkspaces
