import Linkcut.Collector.Ledger
import Linkcut.Launch.Module
import Linkcut.Main
import Linkcut.Proofs.Controller.Armed
import Linkcut.Proofs.Controller.Clearance
import Linkcut.Proofs.Controller.Census
import Linkcut.Proofs.Protocol.Lifecycles
import Linkcut.Proofs.Scheduler.Punctual
import Linkcut.Proofs.Site.Alike
import Linkcut.Proofs.Scheduler.Dues
import Linkcut.Proofs.Controller.Elapse
import Linkcut.Proofs.Controller.Alike
import Linkcut.Proofs.Controller.Detached
import Linkcut.Proofs.Controller.Isolation
import Linkcut.Proofs.Controller.Simultaneous
import Linkcut.Proofs.Controller.Forward
import Linkcut.Proofs.Exposition.Document
import Linkcut.Proofs.Exposition.Scrape
import Linkcut.Proofs.Exposition.Exported
import Linkcut.Proofs.Json.Strings
import Linkcut.Proofs.Json.Reader
import Linkcut.Proofs.Json.Values
import Linkcut.Proofs.Log.Lines
import Linkcut.Proofs.Double.Range
import Linkcut.Proofs.Settings.Delays
import Linkcut.Proofs.Controller.FailedProbes
import Linkcut.Proofs.Site.Reentrant
import Linkcut.Proofs.Controller.Duplicates
import Linkcut.Proofs.Controller.Figures
import Linkcut.Proofs.Api.Health
import Linkcut.Proofs.Scheduler.Like
import Linkcut.Proofs.Scheduler.Failures
import Linkcut.Proofs.Collector.Totals
import Linkcut.Proofs.Log.Losses
import Linkcut.Proofs.Log.Calls
import Linkcut.Proofs.Launch.Gate
