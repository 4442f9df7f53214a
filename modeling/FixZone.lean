import FixZone.Library.Table
import FixZone.Library.Guard
import FixZone.Library.Run
import FixZone.Library.Interleaving
import FixZone.Library.Protocol
import FixZone.Library.JsText
import FixZone.Library.JsFormat
import FixZone.Library.Partial
import FixZone.Library.FirstAnswer
import FixZone.Library.KeepFirst
import FixZone.Library.Grants
import FixZone.Library.Wildcard
import FixZone.Library.Window
import FixZone.Library.Batches
import FixZone.Library.Words
import FixZone.Library.Replacing
import FixZone.Library.PosixPath
import FixZone.Library.Reservation
import FixZone.Library.QueryObject
import FixZone.Library.Observed
import FixZone.Library.Overlay
import FixZone.Library.OneTimeCodes
import FixZone.Library.Stateful
import FixZone.Library.BigEndian
import FixZone.Library.SlidingWindow
import FixZone.Library.Grouping
import FixZone.Schema
import FixZone.Report.Workflow
import FixZone.Organization.RoutingJurisdiction
import FixZone.Report.Category
import FixZone.Report.Routing
import FixZone.Report.RoutingOutcome
import FixZone.Report.Model
import FixZone.Report.Completion
import FixZone.Report.CategoryPolicy
import FixZone.Report.PolicyListing
import FixZone.Report.Intake
import FixZone.Report.Assignment
import FixZone.Report.Status
import FixZone.Report.Review
import FixZone.Report.Governance
import FixZone.Report.Service
import FixZone.Report.Change
import FixZone.Report.Closure
import FixZone.Report.Stuck
import FixZone.Report.Hold
import FixZone.Report.ActiveWork
import FixZone.Report.Timeout
import FixZone.Report.Sweeps
import FixZone.Report.Jobs
import FixZone.Report.Approval
import FixZone.Report.AssignmentRace
import FixZone.Report.DispatchAi
import FixZone.Report.Reassignment
import FixZone.Report.ReviewQueue
import FixZone.Report.Unrouted
import FixZone.Report.Lifecycle
import FixZone.Report.Ownership
import FixZone.Report.Quota
import FixZone.Report.DeadlinePass
import FixZone.Report.DeadlineProgress
import FixZone.Report.ReviewWindow
import FixZone.Report.ReviewPages
import FixZone.Report.CategoryMatching
import FixZone.Report.Trail
import FixZone.Report.Visibility
import FixZone.Report.GeoTrust
import FixZone.Security.UploadSecurity
import FixZone.Security.ImageDecoding
import FixZone.Security.Base64Url
import FixZone.Security.RateLimit
import FixZone.Report.EvidencePaths
import FixZone.Report.EvidenceListing
import FixZone.Report.EvidenceFiles
import FixZone.Report.EvidenceLimits
import FixZone.Report.History
import FixZone.Report.CompletionNotices
import FixZone.Report.Discussion
import FixZone.Report.PolicyLabels
import FixZone.Trust.Evidence
import FixZone.Trust.OwnEvidence
import FixZone.Trust.Service
import FixZone.Trust.Disputes
import FixZone.Trust.CaseNumbers
import FixZone.Trust.Kyc
import FixZone.Organization.Readiness
import FixZone.Organization.RoutingAgreement
import FixZone.Organization.JurisdictionZones
import FixZone.Organization.PlaceMatching
import FixZone.Organization.PlaceSpelling
import FixZone.Payments.Fulfilment
import FixZone.Payments.Refund
import FixZone.Payments.Eligibility
import FixZone.Payments.BillingPeriod
import FixZone.Organization.PlanChanges
import FixZone.Payments.Reconciliation
import FixZone.Payments.ReconciliationProgress
import FixZone.Accounts
import FixZone.Auth.Totp
import FixZone.Auth.Base32
import FixZone.Auth.Mfa
import FixZone.Auth.Service
import FixZone.Auth.Calls
import FixZone.Auth.Effects
import FixZone.Auth.SingleUse
import FixZone.Auth.PasswordReset
import FixZone.Auth.ResetLimits
import FixZone.Auth.ResetDelivery
import FixZone.Auth.ResetByMail
import FixZone.Auth.Replay
import FixZone.Auth.RecoveryCodes
import FixZone.Auth.Activation
import FixZone.Auth.AccountChanges
import FixZone.Auth.Revocation
import FixZone.Auth.SecondFactor
import FixZone.Auth.Lockout
import FixZone.Auth.FirebaseAccounts
import FixZone.Auth.Profile
import FixZone.InternalAdmin.RoleCatalog
import FixZone.InternalAdmin.Service
import FixZone.InternalAdmin.Scope
import FixZone.InternalAdmin.Operations
import FixZone.InternalAdmin.GrantCeiling
import FixZone.InternalAdmin.ScopeCeiling
import FixZone.InternalAdmin.Lifecycle
import FixZone.InternalAdmin.InvitationQueue
import FixZone.InternalAdmin.ApprovalQueue
import FixZone.InternalAdmin.QueueScope
import FixZone.InternalAdmin.QueueFilters
import FixZone.InternalAdmin.ApprovalDecisions
import FixZone.Users.Service
import FixZone.Users.Staff
import FixZone.Users.Invitee
import FixZone.Users.Administration
import FixZone.Users.Quotas
import FixZone.Users.PrivilegedAccounts
import FixZone.Users.PrimaryMembership
import FixZone.Auth.VerifiedContacts
import FixZone.Users.SuperAdmins
import FixZone.Users.InvitationRace
import FixZone.Users.DiscoveryInvitation
import FixZone.Users.Discovery
import FixZone.Users.DiscoveryRanking
import FixZone.Onboarding.Service
import FixZone.Onboarding.SpentInvitations
import FixZone.InternalAdmin.RoleRevocation
import FixZone.Governance.Service
import FixZone.Governance.Delegation
import FixZone.Library.Relational
import FixZone.Library.IsoDate
import FixZone.Library.Calendar
import FixZone.Database
import FixZone.DemoData.Service
import FixZone.DemoData.Deletion
import FixZone.DemoData.PurgeSafeguards
import FixZone.PlatformTools.Backup
import FixZone.PlatformTools.Restoration
import FixZone.PlatformTools.RestoreRoundTrip
import FixZone.PlatformConfiguration.AuditHistory
import FixZone.PlatformConfiguration.CapabilityCoverage
import FixZone.PlatformConfiguration.ServiceConfiguration
import FixZone.PlatformConfiguration.ProviderCapabilities
import FixZone.Users.JsonColumns
import FixZone.Analytics.Service
import FixZone.Analytics.FilteredFigures
import FixZone.Public.VisitorAnalytics
import FixZone.Notification.Inbox
import FixZone.Library.UriComponent
import FixZone.Auth.MfaEnvelope
import FixZone.Auth.Authenticator
import FixZone.Library.Csv
import FixZone.PlatformTools.AuditLog
import FixZone.Report.GovernanceQueue
