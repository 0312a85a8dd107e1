import MomentInsights.Impression
import MomentInsights.Number.Shortest
import MomentInsights.Proofs.AnsweredReads
import MomentInsights.Proofs.CardTexts
import MomentInsights.Proofs.CooldownHistory
import MomentInsights.Proofs.DamagedText
import MomentInsights.Proofs.EventOrder
import MomentInsights.Proofs.FailedRequests
import MomentInsights.Proofs.ImpressionHistory
import MomentInsights.Proofs.LateReports
import MomentInsights.Proofs.LaterEvents
import MomentInsights.Proofs.ListingOrder
import MomentInsights.Proofs.LoggingOrder
import MomentInsights.Proofs.OtherChildren
import MomentInsights.Proofs.Percentages
import MomentInsights.Proofs.PureReads
import MomentInsights.Proofs.RepeatedReports
import MomentInsights.Proofs.ReportAccounts
import MomentInsights.Proofs.RiskPrecedence
import MomentInsights.Proofs.SafeArithmetic
import MomentInsights.Proofs.SharedText
import MomentInsights.Proofs.StoredImpressions
import MomentInsights.Proofs.StableHash
import MomentInsights.Proofs.WrittenTexts
import MomentInsights.Service.Server
import MomentInsights.Proofs.GreedyRails
import MomentInsights.Proofs.TimelineIndex
import MomentInsights.Proofs.SlipsAndHardWeeks
import MomentInsights.Proofs.WholeDays
