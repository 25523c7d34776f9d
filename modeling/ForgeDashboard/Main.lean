import ForgeDashboard.Command.Run
import ForgeDashboard.Component.Listing
import ForgeDashboard.Database.Directory
import ForgeDashboard.Host.Kernel
import ForgeDashboard.Log.Level
import ForgeDashboard.Log.Record
import ForgeDashboard.Service.App

/-!
# The program

The program takes its settings from the environment and the environment file, the state of the host
from the files of the kernel, and the versions of what is installed beside it from a listing.  It
runs the command that the command line names, prints what the command prints, and writes the log to
the error output.  The store lives in memory while the program runs.

The service answers requests that are read line by line, each a method and an address.

## Main definitions

* `main` : the program.
-/

namespace ForgeDashboard

/-- The file with settings. -/
def settingsFile : String := ".env"

/-- The file with the versions of what is installed. -/
def listingFile : String := "components.env"

/-- The text of a file, or the failure of reading it. -/
def readText (path : String) : IO (Except Fault String) := do
  match ← (IO.FS.readFile path).toBaseIO with
  | .ok s => return .ok s
  | .error e => return .error (.raised .system (some (toString e)))

/-- The text of a file, or an empty one. -/
def readTextOrEmpty (path : String) : IO String := do
  match ← readText path with
  | .ok s => return s
  | .error _ => return ""

/-- Reads the files of the kernel. -/
def readKernel : IO KernelFiles := do
  return {
    system := ← readText "/proc/sys/kernel/ostype"
    release := ← readText "/proc/sys/kernel/osrelease"
    machine := ← readText "/proc/sys/kernel/arch"
    memory := ← readText "/proc/meminfo"
    uptime := ← readText "/proc/uptime"
    process := ← readText "/proc/self/stat"
    totals := ← readText "/proc/stat" }

/-- A number for this run, of eight digits. -/
def drawRun : IO String := do
  let bytes ← IO.getRandomBytes 4
  let digits := bytes.toList.flatMap fun b => [b.toNat / 16, b.toNat % 16]
  return String.ofList (digits.map Nat.digitChar)

/-- What the parts of the program that print and log have in common. -/
structure Console where
  run : String
  logger : Logger
  kernel : KernelFiles

/-- Writes a line to the log, if its level is high enough. -/
def Console.write (s : Console) (line : LogLine) : IO Unit := do
  match (LevelChoice.name line.severity.name).level with
  | .ok level => if level < s.logger.level then return
  | .error _ => return
  let seconds := (s.kernel.clock).toOption.getD 0
  let record : LogRecord := ⟨Logger.name, line.severity.name, line.message, [], seconds, 0⟩
  match record.written s.run with
  | .ok written => IO.eprintln written
  | .error f => IO.eprintln f.reason

/-- Answers the requests that are read, until there are none. -/
partial def Console.answer (s : Console) (app : App) (d : Deployment) (input : IO.FS.Stream) :
    IO Unit := do
  let line ← input.getLine
  if line.isEmpty then return
  match wordsOf line with
  | [method, target] =>
    match app.respond d ⟨method, target⟩ with
    | .ok response =>
      IO.println (toString response.status)
      if let some document := response.body then IO.println document.printed
    | .error f =>
      s.write ⟨.error, f.reason⟩
      IO.println "500"
  | _ => IO.println "400"
  s.answer app d input

/-- Runs the service. -/
def Console.serve (s : Console) (d : Deployment) : IO UInt32 := do
  match App.start d with
  | .ok (app, d) =>
    s.answer app d (← IO.getStdin)
    return 0
  | .error f =>
    IO.eprintln f.reason
    return 1

/-- Runs a command. -/
def Console.execute (s : Console) (c : CommandContext) (command : Command) : IO UInt32 := do
  let result := command.run c
  IO.print result.printed
  for line in result.log do s.write line
  if let some f := result.escaped then IO.eprintln f.reason
  match result.served with
  | some _ => s.serve c.deployment
  | none => return result.exitCode.toUInt32

/-- What the settings make of the program: the state of the log, and the database. -/
def prepare (settings : Settings) : Except Fault (Logger × Preparation × DatabaseAddress) := do
  let logger ← Logger.initial.configure settings.logLevel .absent
  let address ← DatabaseAddress.parse settings.databaseUrl
  let preparation ← prepareDirectory [] settings.databaseUrl
  return (logger, preparation, address)

/-- Runs a command with settings. -/
def runWith (settings : Settings) (command : Command) : IO UInt32 := do
  match prepare settings with
  | .error f =>
    IO.eprintln f.reason
    return 1
  | .ok (logger, preparation, address) =>
    if settings.isSqlite then
      for directory in preparation.made do IO.FS.createDirAll directory.path
    let kernel ← readKernel
    let run ← drawRun
    let listing := Listing.ofText (← readTextOrEmpty listingFile)
    let engine := listing.engine address.dialect
    let root := (← IO.appPath).parent.map toString
    let version := (listing.version? "python").getD unknownText
    Console.execute ⟨run, logger, kernel⟩ {
      deployment := {
        settings := settings
        access := ⟨.empty, none⟩
        host := kernel.report
        engine := engine
        installation := listing.installation engine }
      installed := ⟨version, root.getD unknownText, run⟩
      components := none
      initFailure := none } command

end ForgeDashboard

open ForgeDashboard in
/-- Runs the command that the command line names.  A command line that names none ends with 2. -/
def main (args : List String) : IO UInt32 := do
  match Command.parse? args with
  | none =>
    IO.eprintln "usage: doctor | versions | dashboard | db init | serve [--host H] [--port N]"
    return 2
  | some command =>
    let env := environmentEntries (← readTextOrEmpty "/proc/self/environ")
    match Settings.ofSources env (EnvFile.bindings (← readTextOrEmpty settingsFile)) with
    | .ok settings => runWith settings command
    | .error f =>
      IO.eprintln f.reason
      return 1
