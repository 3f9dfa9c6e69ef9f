import Sleepypods.Reconciler.Generations
import Sleepypods.Frontline.StreamLoss
import Sleepypods.Proxy.Coverage
import Sleepypods.Proxy.Announcements
import Sleepypods.Store.Reservations
import Sleepypods.Certificates.StoreProperties
import Sleepypods.Reconciler.Retries
import Sleepypods.Projection.Safety
import Sleepypods.Proxy.Identities
import Sleepypods.Store.IdentityKeys
import Sleepypods.Lifecycle.Claimability
import Sleepypods.Reconciler.DrainGrace
import Sleepypods.Reconciler.Overrides
import Sleepypods.Store.Idempotency
import Sleepypods.Proxy.Precision
import Sleepypods.Frontline.CacheConservation
import Sleepypods.Frontline.Correlation
import Sleepypods.Frontline.RequestIdentity
import Sleepypods.Lifecycle.FailureRecords
import Sleepypods.ProxyCore.TcpRelay
import Sleepypods.ProxyCore.Accounting
import Sleepypods.Idle.Durations
import Sleepypods.Certificates.Leases
import Sleepypods.Workload.Values
import Sleepypods.Manifest.HostPath
import Sleepypods.ProxyCore.Delivery
import Sleepypods.Certificates.Sealing
import Sleepypods.ProxyCore.Drain
import Sleepypods.Manifest.Substitution
