import ForgeDashboard.Command.Basic
import ForgeDashboard.Command.Doctor
import ForgeDashboard.Document.Printer

/-!
# Running commands

A command prints lines, writes to the log, may change the store, and ends with an exit code.  A
failure that a command does not expect ends it at once, after what it has printed so far.

## Main definitions

* `CommandContext` : what a command works with.
* `CommandResult` : what a command did.
* `Command.run` : running a command.
-/

namespace ForgeDashboard

/-- What a command works with. -/
structure CommandContext where
  deployment : Deployment
  installed : Installed
  /-- The component versions, if they are given and not found out. -/
  components : Option (List Component)
  /-- A failure of making the tables, if it is given and not that of the deployment. -/
  initFailure : Option Fault

/-- What a command did. -/
structure CommandResult where
  exitCode : Nat
  output : List String
  log : List LogLine
  /-- A failure that ended the command. -/
  escaped : Option Fault
  /-- Where the service was to run. -/
  served : Option (String × Int)
  store : Store

namespace CommandContext

/-- The store before the command. -/
def store (c : CommandContext) : Store := c.deployment.access.store

/-- The result of a command that ran to its end. -/
def finished (c : CommandContext) (exitCode : Nat) (output : List String) (log : List LogLine) :
    CommandResult :=
  ⟨exitCode, output, log, none, none, c.store⟩

/-- The result of a command that a failure ended. -/
def ended (c : CommandContext) (output : List String) (log : List LogLine) (f : Fault) :
    CommandResult :=
  ⟨1, output, log, some f, none, c.store⟩

/-- The component versions. -/
def resolve (c : CommandContext) : Except Fault Resolution :=
  match c.components with
  | some components => .ok ⟨components, []⟩
  | none => c.deployment.resolve

/-- Checks the installation. -/
def doctor (c : CommandContext) : CommandResult :=
  match firstWord? c.installed.runtime with
  | none => c.ended doctorOpening [] .noWord
  | some version =>
    let settings := c.deployment.settings
    let head := doctorOpening ++ environmentLines c.installed version ++
      configurationLines settings
    match c.deployment.diagnose with
    | .error f => c.ended head [] f
    | .ok g =>
      c.finished (g.exitCode settings.databaseUrl)
        (head ++ [g.database.line, "", "[Telemetry]", g.hostLine] ++
          g.summary settings.databaseUrl) []

/-- The deployment with its missing tables made. -/
def withTables (c : CommandContext) : Except Fault Deployment :=
  match c.initFailure with
  | some f => .error f
  | none => c.deployment.createTables

/-- Makes the missing tables. -/
def createTables (c : CommandContext) : CommandResult :=
  match c.withTables with
  | .ok d => { c.finished 0 [] [] with store := d.access.store }
  | .error f =>
    if f.kind.isDatabase then
      c.finished 1 [] [⟨.error, "Failed to initialize database: " ++ f.text⟩]
    else c.ended [] [] f

/-- The line on a component: its name, filled up to twelve characters, its version, and its
description if there is one. -/
def versionLine (component : Component) : String :=
  let name := component.name.shown
  let fill := String.ofList (List.replicate (12 - name.length) ' ')
  let note := if component.description.isEmpty then ""
    else "  (" ++ component.description.shown ++ ")"
  name ++ fill ++ " " ++ component.version.shown ++ note

/-- The log of finding out component versions. -/
def resolutionLog (r : Resolution) : List LogLine :=
  r.unresolved.map fun u => ⟨.warning, u.message⟩

/-- Lists the component versions. -/
def versions (c : CommandContext) : CommandResult :=
  match c.resolve with
  | .error f => c.ended [] [] f
  | .ok r => c.finished 0 (r.components.map versionLine) (resolutionLog r)

/-- Shows the dashboard. -/
def dashboard (c : CommandContext) : CommandResult :=
  match c.resolve with
  | .error f => c.ended [] [] f
  | .ok r =>
    let run := c.deployment.dashboard r.registry
    let log := resolutionLog r ++ c.deployment.dashboardLog run
    match run.view with
    | .error f => c.ended [] log f
    | .ok view => c.finished 0 [view.document.printed] log

end CommandContext

/-- Runs a command. -/
def Command.run (c : CommandContext) : Command → CommandResult
  | .doctor => c.doctor
  | .createTables => c.createTables
  | .versions => c.versions
  | .dashboard => c.dashboard
  | .serve host port => { c.finished 0 [] [] with served := some (host, port) }

/-- What is printed: each line with its end. -/
def CommandResult.printed (r : CommandResult) : String := String.join (r.output.map (· ++ "\n"))

end ForgeDashboard
