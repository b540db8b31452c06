import XianyuAdmin.Orders.SyncRunProgress
import XianyuAdmin.Orders.StatusMonotone
import XianyuAdmin.Orders.PlatformRefresh
import XianyuAdmin.Delivery.NoDoubleDelivery
import XianyuAdmin.Messages.ReplayCounters
import XianyuAdmin.Cookies.AttemptBookkeeping
import XianyuAdmin.AutoReply.ClaimedOnce
import XianyuAdmin.Executors.Accounting
import XianyuAdmin.Mtop.CertainFailures
import XianyuAdmin.Products.LiveImages
import XianyuAdmin.Products.RetryChains
import XianyuAdmin.Proxies.BoundProxies
import XianyuAdmin.Cookies.CookieCopies
import XianyuAdmin.Cookies.CookieMerges
import XianyuAdmin.Cookies.TwoStrikes
import XianyuAdmin.Delivery.TruthfulDelivery
import XianyuAdmin.Messages.SendsSettled
import XianyuAdmin.Products.RunSummary
import XianyuAdmin.Pushes.NoneLost
import XianyuAdmin.Runtime.StaysStopped
import XianyuAdmin.Chatwoot.ForwardedMessages
import XianyuAdmin.Chatwoot.MirroredOnce
import XianyuAdmin.AutoReply.RuleIssues
import XianyuAdmin.Cards.KeyOrders
import XianyuAdmin.Chatwoot.SignedWebhooks
import XianyuAdmin.Delivery.TemplateRendering
import XianyuAdmin.Migrations.AccountImport
import XianyuAdmin.Orders.ActionPolicy
import XianyuAdmin.Products.CarriedOutOnce
import XianyuAdmin.Tasks.ScheduledOnce
import XianyuAdmin.Users.EndedSessions
import XianyuAdmin.Backfills.PeerNameBackfill
import XianyuAdmin.Cookies.CookieIdentity
import XianyuAdmin.Messages.ConversationBatches
import XianyuAdmin.Messages.ConversationPages
import XianyuAdmin.Orders.ListAccounting
import XianyuAdmin.Orders.PagingEnds
import XianyuAdmin.Products.MissingItems
import XianyuAdmin.Products.WholeCatalog
import XianyuAdmin.Tasks.RetriesBounded
import XianyuAdmin.Chatwoot.ReadSnapshots
import XianyuAdmin.Migrations.ExtractedProfiles
import XianyuAdmin.Products.RepeatedSync
import XianyuAdmin.Proxies.SocksRelay
import XianyuAdmin.Proxies.SocksReplies
import XianyuAdmin.Realtime.EventDelivery
import XianyuAdmin.Runtime.ConversationWarmUps
import XianyuAdmin.Runtime.NeverStaleSyncs
import XianyuAdmin.Browsers.ProfileDeletion
import XianyuAdmin.Cards.StoredTextCards
import XianyuAdmin.Chatwoot.AttachmentDownloads
import XianyuAdmin.Cookies.BrowserReconciliation
import XianyuAdmin.Products.ImageArchives
import XianyuAdmin.Products.TaskCreation
import XianyuAdmin.AutoReply.ContextSelection
import XianyuAdmin.Proxies.AccountRoutes
import XianyuAdmin.Orders.RefreshSchedule
import XianyuAdmin.Products.SyncSchedule
