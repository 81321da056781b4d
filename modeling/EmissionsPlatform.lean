import EmissionsPlatform.Alerting
import EmissionsPlatform.Announcements
import EmissionsPlatform.Attribution
import EmissionsPlatform.BatchIdentity
import EmissionsPlatform.CacheAgreement
import EmissionsPlatform.ConcurrentResolution
import EmissionsPlatform.Conservation
import EmissionsPlatform.ConsumerGroup
import EmissionsPlatform.Contracts
import EmissionsPlatform.CreationForm
import EmissionsPlatform.Dashboard
import EmissionsPlatform.Database
import EmissionsPlatform.DedupWindow
import EmissionsPlatform.EmissionPoints
import EmissionsPlatform.EndToEnd
import EmissionsPlatform.ErrorEnvelopes
import EmissionsPlatform.ExactTotals
import EmissionsPlatform.Figures
import EmissionsPlatform.FirstDelivery
import EmissionsPlatform.FormDelivery
import EmissionsPlatform.Foundation.AttemptSpacing
import EmissionsPlatform.Foundation.BoundedWaiting
import EmissionsPlatform.Foundation.Calendar
import EmissionsPlatform.Foundation.DecimalText
import EmissionsPlatform.Foundation.DoubleSums
import EmissionsPlatform.Foundation.DoubleTenths
import EmissionsPlatform.Foundation.Drain
import EmissionsPlatform.Foundation.Encodings
import EmissionsPlatform.Foundation.EvictionWindow
import EmissionsPlatform.Foundation.Fallible
import EmissionsPlatform.Foundation.InsertionMap
import EmissionsPlatform.Foundation.IntegerLiteral
import EmissionsPlatform.Foundation.IsoDatetime
import EmissionsPlatform.Foundation.JsonWriting
import EmissionsPlatform.Foundation.KeysetPaging
import EmissionsPlatform.Foundation.Keyspace
import EmissionsPlatform.Foundation.LeaseQueue
import EmissionsPlatform.Foundation.LockOrder
import EmissionsPlatform.Foundation.NumberArithmetic
import EmissionsPlatform.Foundation.NumberLiteral
import EmissionsPlatform.Foundation.RangePartitions
import EmissionsPlatform.Foundation.TickTransaction
import EmissionsPlatform.Foundation.Transition
import EmissionsPlatform.Foundation.UniqueIndex
import EmissionsPlatform.Foundation.Validation
import EmissionsPlatform.Foundation.WallClock
import EmissionsPlatform.HandlerEffects
import EmissionsPlatform.IngestEdge
import EmissionsPlatform.IngestForm
import EmissionsPlatform.IngestHandler
import EmissionsPlatform.IngestPipeline
import EmissionsPlatform.KafkaConsumer
import EmissionsPlatform.MeasurementPartitions
import EmissionsPlatform.MessageAccounts
import EmissionsPlatform.MetricsContract
import EmissionsPlatform.MetricsRelay
import EmissionsPlatform.MetricsService
import EmissionsPlatform.MonthBoundary
import EmissionsPlatform.Notifications
import EmissionsPlatform.OutboxRelay
import EmissionsPlatform.ProduceBound
import EmissionsPlatform.Redelivery
import EmissionsPlatform.Relay
import EmissionsPlatform.RelayLoop
import EmissionsPlatform.RelayProgress
import EmissionsPlatform.RelayRuns
import EmissionsPlatform.RelayTicks
import EmissionsPlatform.RelayWrites
import EmissionsPlatform.ReportedTotal
import EmissionsPlatform.SiteCache
import EmissionsPlatform.SiteContracts
import EmissionsPlatform.SiteListing
import EmissionsPlatform.SitesList
import EmissionsPlatform.SitesQuery
import EmissionsPlatform.SnapshotRead
import EmissionsPlatform.StaleFlags
import EmissionsPlatform.SystemAlertsRelay
import EmissionsPlatform.TransactionLocks
