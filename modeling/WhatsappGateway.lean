import WhatsappGateway.Middleware.IdempotencyCoreLaw
import WhatsappGateway.Middleware.IdempotencyProvenance
import WhatsappGateway.Middleware.IdempotencySettled
import WhatsappGateway.Middleware.IdempotencyTakeover
import WhatsappGateway.Queue.EventIsolation
import WhatsappGateway.Queue.StopOnce
import WhatsappGateway.Queue.WorkerConservation
import WhatsappGateway.Usecase.SendFallback
import WhatsappGateway.Whatsapp.BanGate
import WhatsappGateway.Lib.Envelope
import WhatsappGateway.Ratelimiter.TokenBucket
import WhatsappGateway.Ratelimiter.PacerAccounting
import WhatsappGateway.Lib.FilePath
import WhatsappGateway.Storage.Local
import WhatsappGateway.Cipherx.Cipher
import WhatsappGateway.Whatsapp.WebhookBackfill
import WhatsappGateway.Whatsapp.PayloadAgreement
import WhatsappGateway.Lib.Base64
import WhatsappGateway.Usecase.QueueFaithful
import WhatsappGateway.Usecase.JobStatus
import WhatsappGateway.Queue.FailedFinal
import WhatsappGateway.Queue.FanOut
import WhatsappGateway.Queue.FanOutOnce
import WhatsappGateway.Lib.Retry
import WhatsappGateway.Ratelimiter.FixedWindow
import WhatsappGateway.Ratelimiter.RetryAfter
import WhatsappGateway.Ratelimiter.ProviderAgreement
import WhatsappGateway.Lib.BytePrefix
import WhatsappGateway.Utils.PrivateIP
import WhatsappGateway.Whatsapp.WebhookDial
import WhatsappGateway.Whatsapp.DirectFanOut
import WhatsappGateway.Whatsapp.Repairing
import WhatsappGateway.Lib.Fields
import WhatsappGateway.Usecase.GroupRequests
import WhatsappGateway.Usecase.ReadCache
import WhatsappGateway.Usecase.ReadIsolation
import WhatsappGateway.Queue.Connection
import WhatsappGateway.Whatsapp.ClientStore
import WhatsappGateway.Queue.ShutdownTerminal
import WhatsappGateway.Lib.Traced
import WhatsappGateway.Usecase.Outbound
import WhatsappGateway.Usecase.OutboundPaced
import WhatsappGateway.Whatsapp.BackfillRerun
import WhatsappGateway.Lib.Expiring
import WhatsappGateway.Queue.DedupRefinement
import WhatsappGateway.Lib.WindowCap
import WhatsappGateway.Ratelimiter.WindowBound
import WhatsappGateway.Usecase.RecipientCap
import WhatsappGateway.Cipherx.RoundTrip
import WhatsappGateway.Cipherx.Malformed
import WhatsappGateway.Lib.Loop
import WhatsappGateway.Ratelimiter.PacerExact
import WhatsappGateway.Lib.Trim
import WhatsappGateway.Usecase.PhoneGrammar
import WhatsappGateway.Usecase.Recipients
import WhatsappGateway.Lib.Distinct
import WhatsappGateway.Usecase.Participants
import WhatsappGateway.Whatsapp.AddressingMode
import WhatsappGateway.Lib.Ring
import WhatsappGateway.Whatsapp.IncomingBuffer
import WhatsappGateway.Whatsapp.PolledMessage
import WhatsappGateway.Lib.Glob
import WhatsappGateway.Queue.Topology
import WhatsappGateway.Usecase.QueryBudget
import WhatsappGateway.Lib.GoErrors
import WhatsappGateway.Whatsapp.ClientErrors
import WhatsappGateway.Whatsapp.ClientOperations
import WhatsappGateway.Whatsapp.DeadlineMapped
import WhatsappGateway.Lib.FileTree
import WhatsappGateway.Storage.Host
import WhatsappGateway.Storage.CleanupEmptyDirs
import WhatsappGateway.Storage.UploadAtomic
import WhatsappGateway.Lib.RelPath
import WhatsappGateway.Storage.ListThenGet
import WhatsappGateway.Lib.Json
import WhatsappGateway.Storage.S3Policy
import WhatsappGateway.Storage.FolderAccess
import WhatsappGateway.Storage.PolicyFrame
import WhatsappGateway.Lib.Strings
import WhatsappGateway.Lib.Query
import WhatsappGateway.Database.SqliteDSN
import WhatsappGateway.Database.SqlitePragma
import WhatsappGateway.Database.KeywordDSN
import WhatsappGateway.Database.PostgresDSN
import WhatsappGateway.Lib.Sorted
import WhatsappGateway.Usecase.ContactPages
import WhatsappGateway.Whatsapp.EventFilter
import WhatsappGateway.Whatsapp.SessionMerge
import WhatsappGateway.Lib.Int64
import WhatsappGateway.Lib.Backoff
import WhatsappGateway.Whatsapp.WebhookRetry
import WhatsappGateway.Lib.Recency
import WhatsappGateway.Lib.Fallible
import WhatsappGateway.Queue.DeadLetters
import WhatsappGateway.Lib.Slots
import WhatsappGateway.Whatsapp.IncomingBuffers
import WhatsappGateway.Whatsapp.DeliverySlots
import WhatsappGateway.Whatsapp.Subscriptions
import WhatsappGateway.Middleware.DocsSession
import WhatsappGateway.Lib.Isolation
import WhatsappGateway.Whatsapp.Accounts
import WhatsappGateway.Storage.ObjectStore
import WhatsappGateway.Whatsapp.MediaDownloader
import WhatsappGateway.Whatsapp.SentMessage
import WhatsappGateway.Middleware.Registration
import WhatsappGateway.Usecase.JobQuery
import WhatsappGateway.Lib.Tally
import WhatsappGateway.Lib.Exposition
import WhatsappGateway.Whatsapp.Metrics
import WhatsappGateway.Whatsapp.Scrape
