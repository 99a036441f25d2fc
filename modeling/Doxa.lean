import Doxa.RealtimeChannels
import Doxa.RealtimeReconnect
import Doxa.PostgresOperations
import Doxa.ModelSave
import Doxa.AccessTokens
import Doxa.AuthChallenges
import Doxa.AuthPasswords
import Doxa.AuthClients
import Doxa.RuntimeUnitOfWork
import Doxa.RuntimeStack
import Doxa.RuntimeInjection
import Doxa.RuntimeShutdown
import Doxa.EventReactions
import Doxa.OptimisticConcurrency
import Doxa.EagerLoading
import Doxa.IdentityMap
import Doxa.HydrationWaits
import Doxa.PostgresCommit
import Doxa.DiagnosticPrivacy
import Doxa.SingletonGraph
import Doxa.KeryxReadiness
import Doxa.PresenceConvergence
import Doxa.QueueRecovery
import Doxa.OutboxDispatch
import Doxa.MigrationRuns
import Doxa.HotReload
import Doxa.TraceTree
import Doxa.TicketOpening
import Doxa.DeliveryJobs
import Doxa.DotenvAgreement
import Doxa.MemoryDeliveries
import Doxa.RouteDispatch
import Doxa.ScheduleInput
import Doxa.ScheduleOverlap
import Doxa.RecordChannels
import Doxa.RetentionKept
import Doxa.CommandThrottle
import Doxa.PresenceRecord
import Doxa.PublishAuthenticator
import Doxa.BroadcastDelivery
import Doxa.RealtimeCommands
import Doxa.StartupUnwind
import Doxa.Caches
import Doxa.AuthRateLimit
import Doxa.CredentialUpgrade
import Doxa.IdentifierNormalization
import Doxa.UriCredentials
import Doxa.UpgradePlan
import Doxa.CanonicalManifest
import Doxa.TheoriaSpans
import Doxa.Pagination
