import ForgeDashboard.Host.Report
import ForgeDashboard.Text.Split

/-!
# Kernel files

A Linux kernel describes the host and each process in small text files.  Memory is listed line by
line, each with a name, a number and a unit; a process is described by the name of its program in
parentheses and a row of numbers behind it; the environment of a process is a row of texts that end
in a zero character.  Times count from the start of the host.

## Main definitions

* `KernelFiles`, `KernelFiles.report` : the files, and the report on the host that they give.
* `KernelFiles.clock` : the seconds since the start of 1970.
* `environmentEntries` : the variables of an environment.
-/

namespace ForgeDashboard

/-- The texts of the files of a kernel, each of which may fail to be read. -/
structure KernelFiles where
  system : Except Fault String
  release : Except Fault String
  machine : Except Fault String
  memory : Except Fault String
  uptime : Except Fault String
  process : Except Fault String
  totals : Except Fault String

namespace KernelFiles

/-- The failure of a file that does not say what it should. -/
def silent (subject : String) : Fault := .raised .system (some (subject ++ " is not reported"))

/-- The first word of a file. -/
def wordIn (file : Except Fault String) : Reading := do
  match firstWord? (← file) with
  | some word => return .text word
  | none => throw (silent "a word")

/-- The number of clock ticks of the kernel in a second. -/
def ticksPerSecond : Nat := 100

/-- The number of bytes of a unit of memory. -/
def unitBytes : List String → Nat
  | ["kB"] => 1024
  | _ => 1

/-- The number behind a name that starts a line, in bytes. -/
def amountIn (file : Except Fault String) (name : String) : Reading := do
  let found := (linesOf (← file)).findSome? fun line =>
    match wordsOf line with
    | word :: number :: unit =>
      if word = name then (readInteger? number).map (· * (unitBytes unit : Int)) else none
    | _ => none
  match found with
  | some n => return .num (.int n)
  | none => throw (silent name)

/-- The words behind the name of the program of a process, which may hold blanks and parentheses. -/
def processWords (s : String) : List String :=
  wordsOf (String.ofList (s.toList.reverse.takeWhile (· != ')')).reverse)

/-- The seconds from the start of the host to that of the process. -/
def createTime (k : KernelFiles) : Reading := do
  match ((processWords (← k.process))[19]?).bind readInteger? with
  | some ticks => return .num (.float (Binary64.ofRat (ticks / ticksPerSecond)))
  | none => throw (silent "the start of the process")

/-- The seconds since the start of the host. -/
def elapsed (k : KernelFiles) : Reading := do
  match (firstWord? (← k.uptime)).bind fun word => Binary64.ofNumeral? word.toList with
  | some seconds => return .num (.float seconds)
  | none => throw (silent "the time since the start")

/-- The number of the process. -/
def processId (k : KernelFiles) : Reading := do
  match (firstWord? (← k.process)).bind readInteger? with
  | some n => return .num (.int n)
  | none => throw (silent "the number of the process")

/-- The report on the host that the files give.  Both times count from the start of the host. -/
def report (k : KernelFiles) : HostReport where
  system := wordIn k.system
  release := wordIn k.release
  machine := wordIn k.machine
  memory := match k.memory with
    | .ok _ => .bytes (amountIn k.memory "MemTotal:") (amountIn k.memory "MemAvailable:")
    | .error f => .failed f
  now := k.elapsed
  createTime := k.createTime
  processId := k.processId
  process := .given

/-- The seconds from the start of 1970 in universal time until now. -/
def clock (k : KernelFiles) : Except Fault Int := do
  let start ← (← amountIn k.totals "btime").toInteger
  return start + (← (← k.elapsed).toInteger)

end KernelFiles

/-- The variables of an environment, each text of which sets a name to a value. -/
def environmentEntries (s : String) : List (String × String) :=
  (splitWhere (· == '\x00') s.toList).filterMap fun entry =>
    match splitOnce '=' entry with
    | (name, some value) => some (String.ofList name, String.ofList value)
    | (_, none) => none

end ForgeDashboard
