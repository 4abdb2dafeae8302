import Ariax.Bt.InfoHash
import Ariax.Core.GidPrefix
import Ariax.Http.Destination
import Ariax.HttpRange.Feedback
import Ariax.HttpRange.Verdicts
import Ariax.Journal.Canonical
import Ariax.Layout.Mapping
import Ariax.Layout.Metalink
import Ariax.Rate.Dispatch
import Ariax.Rate.Refunds
import Ariax.Runtime.Buffer
import Ariax.Runtime.Dispatch
import Ariax.Scheduler.ControlOrder
import Ariax.Scheduler.Membership
import Ariax.Scheduler.RestartPatch
import Ariax.Scheduler.Slots
import Ariax.Session.Shutdown
import Ariax.Storage.Exclusion
import Ariax.Storage.Verified
import Ariax.Supervisor.Drained
