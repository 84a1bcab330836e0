import RamUsb.Go.Str
import RamUsb.Go.Map
import RamUsb.Go.Codec
import RamUsb.Metrics.Metric
import RamUsb.Collector.Validate
import RamUsb.Collector.Subscriber
import RamUsb.Collector.Storage
import RamUsb.Collector.Retention
import RamUsb.Collector.Config
import RamUsb.Collector.Accounting
import RamUsb.Collector.Prometheus
import RamUsb.Collector.Exposition
import RamUsb.EntryHub.Aggregator
import RamUsb.EntryHub.Quantiles
import RamUsb.EntryHub.Runs
import RamUsb.EntryHub.Counters
import RamUsb.EntryHub.Middleware
import RamUsb.EntryHub.Publisher
import RamUsb.EntryHub.Delivery
import RamUsb.EntryHub.Register
import RamUsb.EntryHub.Dashboard
import RamUsb.Registration.Validation
import RamUsb.Vault.Errors
import RamUsb.Vault.Crypto
import RamUsb.Vault.Postgres
import RamUsb.Vault.Transaction
import RamUsb.Vault.Store
import RamUsb.Vault.StoreHandler
import RamUsb.Registration.Logging
