import SaasFoundation.Transaction.System
import SaasFoundation.Transaction.Discipline
import SaasFoundation.Accounting.Numeric
import SaasFoundation.Database.Rows
import SaasFoundation.Database.Schema
import SaasFoundation.Utils.Runtime
import SaasFoundation.Workspaces.Service
import SaasFoundation.Admin.AdminMutation
import SaasFoundation.Accounts.Service
import SaasFoundation.Accounts.RolesController
import SaasFoundation.Users.Repository
import SaasFoundation.Users.Service
import SaasFoundation.Auth.Service
import SaasFoundation.Accounting.Amount
import SaasFoundation.Accounting.Credits
import SaasFoundation.Api.Requests
import SaasFoundation.Transaction.History
import SaasFoundation.Api.Effects
import SaasFoundation.Transaction.Body
import SaasFoundation.Api.Coverage
import SaasFoundation.Api.Discipline
import SaasFoundation.Api.Rules
import SaasFoundation.Workspaces.Statements
import SaasFoundation.Workspaces.Verification
import SaasFoundation.Accounts.RolesVerification
import SaasFoundation.Api.Verification
import SaasFoundation.Api.Runs
import SaasFoundation.Api.Commits
import SaasFoundation.Workspaces.Ownership
import SaasFoundation.Workspaces.Invitations
import SaasFoundation.Workspaces.Roles
import SaasFoundation.Accounts.Administrators
import SaasFoundation.Accounting.Idempotency
import SaasFoundation.Accounting.Ledger
import SaasFoundation.Relational.Part
import SaasFoundation.Transaction.Serial
import SaasFoundation.Transaction.Atomic
import SaasFoundation.Transaction.Triple
import SaasFoundation.Transaction.UniqueIndex
import SaasFoundation.Workspaces.Answers
import SaasFoundation.Workspaces.Isolation
import SaasFoundation.Workspaces.OwnedLimit
import SaasFoundation.Users.History
import SaasFoundation.Sessions.History
import SaasFoundation.Sessions.Rotation
import SaasFoundation.Auth.Credentials
import SaasFoundation.Auth.Links
import SaasFoundation.Users.Changes
import SaasFoundation.Accounts.Delegation
import SaasFoundation.Relational.Expiry
import SaasFoundation.Platform.Redis
import SaasFoundation.Platform.RedisService
import SaasFoundation.Platform.RateLimitGuard
import SaasFoundation.Platform.Cache
import SaasFoundation.Web.Sessions
import SaasFoundation.Web.Access
import SaasFoundation.Platform.AuthProtectionGuard
import SaasFoundation.Settings.LoginUnblock
import SaasFoundation.Settings.UnblockSafety
import SaasFoundation.Settings.UnblockTruth
import SaasFoundation.Settings.UnblockBatch
import SaasFoundation.Auth.Uniformity
import SaasFoundation.Database.Seeding
import SaasFoundation.Api.Emails
import SaasFoundation.Admin.AdminQuery
import SaasFoundation.Relational.OrderBy
import SaasFoundation.Admin.PaginateRaw
import SaasFoundation.Admin.Lists
import SaasFoundation.Admin.Partition
import SaasFoundation.Auth.Refresh
import SaasFoundation.Auth.LinkErrors
import SaasFoundation.Auth.Rejections
import SaasFoundation.Accounts.Names
import SaasFoundation.Accounts.Permissions
import SaasFoundation.Web.Recovery
import SaasFoundation.Web.Balance
import SaasFoundation.Web.Profile
import SaasFoundation.Workspaces.InvitationLimit
import SaasFoundation.Utils.ValidationOptions
import SaasFoundation.Utils.DeepResolver
import SaasFoundation.Web.ReturnUrl
import SaasFoundation.Web.ListPage
import SaasFoundation.Web.CreditAdjustment
import SaasFoundation.Api.Audits
import SaasFoundation.Admin.Catalogs
import SaasFoundation.Admin.CatalogRuns
import SaasFoundation.Auth.BrowserAuthController
import SaasFoundation.Auth.BrowserCookies
import SaasFoundation.Auth.BrowserRefreshes
import SaasFoundation.Web.Router
import SaasFoundation.Web.Navigation
