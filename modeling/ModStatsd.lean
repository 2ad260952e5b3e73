import ModStatsd.Client.Delivery
import ModStatsd.Client.Packing
import ModStatsd.Client.Pending
import ModStatsd.Client.Pools
import ModStatsd.Client.Prefixes
import ModStatsd.Client.Reentry
import ModStatsd.Client.Refinement
import ModStatsd.Client.Statsd
import ModStatsd.Client.Stream
import ModStatsd.Config.Address
import ModStatsd.Config.Directives
import ModStatsd.Config.Postparse
import ModStatsd.Core.CString
import ModStatsd.Lib.Batching
import ModStatsd.Lib.Binary
import ModStatsd.Lib.Books
import ModStatsd.Lib.Cuts
import ModStatsd.Lib.Decimal
import ModStatsd.Lib.Handles
import ModStatsd.Lib.Ledger
import ModStatsd.Lib.Lines
import ModStatsd.Lib.Lists
import ModStatsd.Metric.GaugeField
import ModStatsd.Metric.Metric
import ModStatsd.Metric.Rate
import ModStatsd.Metric.Truncation
import ModStatsd.Metric.Wire
import ModStatsd.Server.Fleet
import ModStatsd.Server.Killed
import ModStatsd.Server.Reception
import ModStatsd.Server.Tally
import ModStatsd.Server.Transport
import ModStatsd.Session.Calls
import ModStatsd.Session.Coherence
import ModStatsd.Session.Configured
import ModStatsd.Session.Connections
import ModStatsd.Session.Counts
import ModStatsd.Session.Descriptors
import ModStatsd.Session.Fitting
import ModStatsd.Session.Gauges
import ModStatsd.Session.Lifecycle
import ModStatsd.Session.Reinit
import ModStatsd.Session.Reports
import ModStatsd.Session.Sampling
import ModStatsd.Session.Session
import ModStatsd.Session.SqlCount
import ModStatsd.Session.Thinning
import ModStatsd.Session.Timers
import ModStatsd.Session.Waiting
