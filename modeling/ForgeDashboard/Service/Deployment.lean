import ForgeDashboard.Component.Resolve
import ForgeDashboard.Host.Report
import ForgeDashboard.Settings.Basic
import ForgeDashboard.Store.Statistics

/-!
# Deployments

A deployment is what the program runs on: its settings, the store, the host, the database engine and
the installed components.  The dashboard of a deployment asks the store, takes a snapshot of the
host, and lists a given registry of component versions.

The missing tables are made all together or not at all.  What is left behind if one cannot be made
after others were depends on the database and its driver, and is not described here.

## Main definitions

* `Deployment` : what the program runs on.
* `Deployment.resolve` : the component versions of a deployment.
* `Deployment.dashboard` : the calls of a dashboard of a deployment.
* `Deployment.createTables` : making the missing tables.
-/

namespace ForgeDashboard

/-- What the program runs on. -/
structure Deployment where
  settings : Settings
  access : Access
  host : HostReport
  engine : Engine
  installation : Installation
  /-- Why looking for the tables or making a missing one fails over a connection, if it does. -/
  tableFailure : Option Fault := none

namespace Deployment

/-- The component versions, that of the database found out from the engine. -/
def resolve (d : Deployment) : Except Fault Resolution :=
  { d.installation with engine := some d.engine }.resolve

/-- The calls of a dashboard that lists a given registry. -/
def dashboard (d : Deployment) (registry : Registry) : Run Binary64 :=
  runSources (d.access.sources d.host.snapshot registry.components) 0 d.settings.timeout

/-- The deployment with the missing tables of the store. -/
def withTables (d : Deployment) : Deployment :=
  { d with access := { d.access with store := d.access.store.createMissing } }

/-- Why making the missing tables fails, if it does.  First there has to be a connection; then the
tables are looked for, and those that are missing are made. -/
def createFailure (d : Deployment) : Option Fault :=
  match d.engine.connectFailure with
  | some f => some f
  | none => d.tableFailure

/-- Makes the missing tables of the store. -/
def createTables (d : Deployment) : Except Fault Deployment :=
  match d.createFailure with
  | some f => .error f
  | none => .ok d.withTables

/-- The line that is logged when the store fails to answer a question. -/
def storeWarning? (d : Deployment) : Question → Option LogLine
  | .plain (.count kind) => storeWarning (d.access.count kind : Behaviour Binary64 Int)
  | .plain (.latest kind) =>
    storeWarning (d.access.latest kind : Behaviour Binary64 (Option LatestEntity))
  | .owner repository =>
    storeWarning (d.access.owner repository : Behaviour Binary64 (Option String))
  | _ => none

/-- The log of the calls of a dashboard: the failures of the store, and what is noted of the
calls. -/
def dashboardLog (d : Deployment) (run : Run Binary64) : List LogLine :=
  run.questions.filterMap d.storeWarning? ++ run.notices.map Notice.line

end Deployment

end ForgeDashboard
