import Tchuno.Library.Machine
import Tchuno.Library.Action
import Tchuno.Library.Ecma
import Tchuno.Library.Journal
import Tchuno.Library.Json
import Tchuno.Library.Table
import Tchuno.Payments.Schema
import Tchuno.Payments.Ledger
import Tchuno.Payments.Policy
import Tchuno.Payments.Gateway
import Tchuno.Payments.Charges
import Tchuno.Payments.Webhooks
import Tchuno.Payments.Refunds
import Tchuno.Payments.Payouts
import Tchuno.Payments.Selection
import Tchuno.Payments.Operation
import Tchuno.Payments.Movement
import Tchuno.Payments.Refinement
import Tchuno.Payments.Admission
import Tchuno.Payments.Consistency
import Tchuno.Payments.Runs
import Tchuno.Library.Escrow
import Tchuno.Payments.Escrow
import Tchuno.Payments.Conservation
import Tchuno.Payments.Reports
import Tchuno.Payments.ChargeAccounting
import Tchuno.Payments.StatusReports
import Tchuno.Payments.Settlement
import Tchuno.Payments.RefundLimit
import Tchuno.Payments.ExternalEffects
import Tchuno.Payments.Reservation
import Tchuno.Payments.Coherence
import Tchuno.Payments.LiveCharges
import Tchuno.Payments.SignatureCoverage
import Tchuno.Library.ReadCommitted
import Tchuno.Library.Script
import Tchuno.Payments.Database
import Tchuno.Payments.ConcurrentCharges
import Tchuno.Payments.Growth
import Tchuno.Payments.ChargedOnce
import Tchuno.Payments.Uniqueness
import Tchuno.Payments.SwallowedEvents
import Tchuno.Payments.ConcurrentSettlements
import Tchuno.Payments.SettlementRecords
import Tchuno.Payments.DecisionCalls
import Tchuno.Payments.SettlementOutcomes
import Tchuno.Auth.Schema
import Tchuno.Auth.Services
import Tchuno.Payments.ConcurrentReleases
import Tchuno.Auth.Histories
import Tchuno.Auth.TokenFamily
import Tchuno.Auth.Suspension
import Tchuno.Auth.Revocation
import Tchuno.Auth.SingleUse
import Tchuno.Contact.UploadPolicy
import Tchuno.Contact.Conversations
import Tchuno.Contact.EscrowFirst
import Tchuno.AdminOps.Deletion
import Tchuno.Payments.Disputes
import Tchuno.Payments.Funding
import Tchuno.Payments.ProviderSummary
import Tchuno.AdminOps.ProviderBalances
import Tchuno.Auth.Administration
import Tchuno.Auth.Reauth
import Tchuno.Auth.ReauthTokens
import Tchuno.Contact.ProtectedChat
import Tchuno.Library.Doubles
import Tchuno.Library.TwoRuns
import Tchuno.Payments.ConcurrentMoves
import Tchuno.Reviews.Ratings
import Tchuno.SupportOps.DecidedDisputes
import Tchuno.SupportOps.FinancialState
import Tchuno.SupportOps.ParticipantView
import Tchuno.Library.Postconditions
import Tchuno.Requests.Lifecycle
import Tchuno.Catalog.Categories
import Tchuno.Catalog.Completeness
import Tchuno.Contact.AttachmentKeys
import Tchuno.Library.Rotation
import Tchuno.Payments.FeeSplits
import Tchuno.Payments.Instalments
import Tchuno.Payments.Reconciliation
import Tchuno.Payments.ReconciliationRuns
import Tchuno.Requests.Agreement
import Tchuno.Requests.Parties
import Tchuno.Requests.Replies
import Tchuno.SupportOps.RefundSummary
import Tchuno.Tracking.Arrival
import Tchuno.Tracking.Queue
import Tchuno.TrustSafety.PhoneRuns
import Tchuno.Web.BehaviorAggregation
import Tchuno.Web.Reloads
import Tchuno.Auth.Cookies
import Tchuno.Auth.AuditMetadata
import Tchuno.AdminOps.PlatformSettings
import Tchuno.Auth.PasswordRecovery
import Tchuno.Web.LocationMatch
import Tchuno.Library.Ranking
import Tchuno.Web.Recommendations
import Tchuno.Web.Engagement
import Tchuno.Library.RelativeUrls
import Tchuno.Web.PostLogin
import Tchuno.Library.Phrases
import Tchuno.Web.DoubleTranslation
import Tchuno.Auth.IssuedTokens
import Tchuno.Library.Pool
import Tchuno.Web.RefreshRotation
import Tchuno.Web.TrackingQueue
import Tchuno.Library.Emissions
import Tchuno.Payments.PendingSettlement
import Tchuno.Auth.ReauthServed
import Tchuno.Backoffice.AdminPayments
import Tchuno.Backoffice.Confirmations
import Tchuno.Backoffice.MoneyOut
import Tchuno.Contact.Realtime
import Tchuno.Library.Paging
import Tchuno.Notifications.Service
import Tchuno.Catalog.Directory
import Tchuno.Library.Projections
import Tchuno.Requests.DirectoryMarket
import Tchuno.Payments.AdminOverview
import Tchuno.Library.Patterns
import Tchuno.Web.TranslatedTwice
import Tchuno.Payments.SingleCharges
