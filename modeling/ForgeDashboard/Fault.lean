import ForgeDashboard.Value

/-!
# Failures

A failure is either reported from outside, by the host, the database or an installed package, or
found by this program.  Outside failures carry a kind and a text; the kinds form a few families, and
each consumer says which families it can live with.  Failures of this program are listed by cause.

Whoever shows a failure shows its text, or the name of its kind when the text is empty, so no
failure is shown without a reason.

It is assumed that every failure is of one of the listed kinds, and that its text can be made.  So
none of them ends the whole program or the running task and passes by whoever waits for failures,
and none becomes another one on its way out of a task, as the end of an iteration would.

## Main definitions

* `FaultKind` and its families `isDatabase`, `isMissingModule`, `isSystem`.
* `Fault` : a failure by cause, with `Fault.kind` and `Fault.text`.
* `Fault.raised` : a failure with a message, worded as its kind words it.
* `Fault.reason` : the text that is shown.
-/

namespace ForgeDashboard

/-- The kind of a failure. -/
inductive FaultKind where
  | runtime | value | key | missingAttribute | zeroDivision | notImplemented | lookup | unicode
  | memory | recursion | assertion | overflow | mismatch | index
  | application | unknownEntityKind | validation
  | database | operational | integrity | statement | databaseUrl
  | unavailableModule | missingModule | missingPackage
  | system | permission | missingFile | existingFile | notDirectory | connectionRefused | timeout
  deriving DecidableEq

namespace FaultKind

/-- The name of a kind. -/
def name : FaultKind → String
  | runtime => "RuntimeError"
  | value => "ValueError"
  | key => "KeyError"
  | missingAttribute => "AttributeError"
  | zeroDivision => "ZeroDivisionError"
  | notImplemented => "NotImplementedError"
  | lookup => "LookupError"
  | unicode => "UnicodeError"
  | memory => "MemoryError"
  | recursion => "RecursionError"
  | assertion => "AssertionError"
  | overflow => "OverflowError"
  | mismatch => "TypeError"
  | index => "IndexError"
  | application => "GitArenaError"
  | unknownEntityKind => "UnknownEntityKindError"
  | validation => "ValidationError"
  | database => "SQLAlchemyError"
  | operational => "OperationalError"
  | integrity => "IntegrityError"
  | statement => "StatementError"
  | databaseUrl => "ArgumentError"
  | unavailableModule => "ImportError"
  | missingModule => "ModuleNotFoundError"
  | missingPackage => "PackageNotFoundError"
  | system => "OSError"
  | permission => "PermissionError"
  | missingFile => "FileNotFoundError"
  | existingFile => "FileExistsError"
  | notDirectory => "NotADirectoryError"
  | connectionRefused => "ConnectionRefusedError"
  | timeout => "TimeoutError"

/-- All kinds. -/
def all : List FaultKind :=
  [runtime, value, key, missingAttribute, zeroDivision, notImplemented, lookup, unicode, memory,
    recursion, assertion, overflow, mismatch, index, application, unknownEntityKind, validation,
    database, operational, integrity, statement, databaseUrl, unavailableModule, missingModule,
    missingPackage, system, permission, missingFile, existingFile, notDirectory, connectionRefused,
    timeout]

/-- The kind of a given name. -/
def ofName? (s : String) : Option FaultKind := all.find? (·.name == s)

/-- Failures of the database and of the access to it. -/
def isDatabase : FaultKind → Bool
  | database | operational | integrity | statement | databaseUrl => true
  | _ => false

/-- A module or package that cannot be loaded or found. -/
def isMissingModule : FaultKind → Bool
  | unavailableModule | missingModule | missingPackage => true
  | _ => false

/-- Failures of the operating system. -/
def isSystem : FaultKind → Bool
  | system | permission | missingFile | existingFile | notDirectory | connectionRefused
  | timeout => true
  | _ => false

end FaultKind

/-- Why a value was refused where a value of a certain type is required. -/
inductive Mismatch where
  | notText
  | notNumeral
  | timeoutNotPositive
  deriving DecidableEq

/-- The wording of a refused value. -/
def Mismatch.text : Mismatch → String
  | .notText => "Input should be a valid string"
  | .notNumeral => "Input should be a valid number, unable to parse string as a number"
  | .timeoutNotPositive => "Value error, DASHBOARD_TIMEOUT must be greater than zero"

/-- A span of microseconds, written as its days, the seconds of the rest and the microseconds beyond
them, without the parts that are zero. -/
def spanText (micros : Int) : String :=
  let seconds := micros.fdiv 1000000
  let parts := [("days", seconds.fdiv 86400), ("seconds", seconds.fmod 86400),
    ("microseconds", micros.fmod 1000000)].filter (·.2 != 0)
  "datetime.timedelta(" ++
    ", ".intercalate (parts.map fun part => part.1 ++ "=" ++ toString part.2) ++ ")"

/-- Why a text is not a time stamp. -/
inductive StampProblem where
  | malformed (text : String)
  /-- The distance from universal time is not less than a day. -/
  | distance (micros : Int)
  /-- A part of the date or of the time of day is out of range. -/
  | year (year : Int)
  | month
  | day
  | hour
  | minute
  | second
  deriving DecidableEq

/-- The wording of a text that is not a time stamp. -/
def StampProblem.text : StampProblem → String
  | .malformed s => "Invalid isoformat string: " ++ quoted s
  | .distance micros =>
    "offset must be a timedelta strictly between -timedelta(hours=24) and timedelta(hours=24), not "
      ++ spanText micros ++ "."
  | .year y => "year " ++ toString y ++ " is out of range"
  | .month => "month must be in 1..12"
  | .day => "day is out of range for month"
  | .hour => "hour must be in 0..23"
  | .minute => "minute must be in 0..59"
  | .second => "second must be in 0..59"

/-- The two extents that a placeholder of a message template may give. -/
inductive ExtentRole where
  | width
  | precision
  deriving DecidableEq

namespace ExtentRole

/-- Every extent lies below this number, and none below its negative. -/
def limit : ExtentRole → Nat
  | width => Nat.pow 2 63
  | precision => Nat.pow 2 31

/-- The name of an extent. -/
def name : ExtentRole → String
  | width => "width"
  | precision => "precision"

/-- The name of the machine integers that an extent must fit into. -/
def machineType : ExtentRole → String
  | width => "ssize_t"
  | precision => "int"

end ExtentRole

/-- A failure, by cause. -/
inductive Fault where
  /-- Reported from outside, with its text.  A package that is missing has a case of its own. -/
  | reported (kind : FaultKind) (text : String) (other : kind ≠ .missingPackage := by decide)
  /-- No package of this name is installed. -/
  | missingPackage (name : String)
  /-- A count below zero has no plural form. -/
  | negativeCount (count : Int)
  /-- A size below zero has no text. -/
  | negativeSize (size : Num)
  /-- A duration below zero has no text. -/
  | negativeDuration (seconds : Num)
  /-- An operation on numbers has no result. -/
  | arithmetic (cause : ArithmeticError)
  /-- The numeral of an integer has more digits than may be written. -/
  | tooManyDigits (limit : Nat)
  /-- A value that names no kind of entity, where a kind was asked for. -/
  | unknownEntityKind (value : Value)
  /-- A value that is no kind of entity, where a kind was needed. -/
  | invalidEntityKind (value : Value)
  /-- Fields of a record were refused. -/
  | invalidFields (problems : List (String × Mismatch))
  /-- A table does not exist. -/
  | noSuchTable (table : String)
  /-- A required column has no value. -/
  | missingValue (table column : String)
  /-- A column that is unique in its table would hold a value twice. -/
  | duplicateValue (table column : String)
  /-- An instant was written without its offset from universal time. -/
  | timeWithoutOffset
  /-- An instant lies outside the years 1 to 9999 in universal time. -/
  | timeOutOfRange
  /-- A text is not a time stamp. -/
  | invalidStamp (problem : StampProblem)
  /-- A number does not fit into a column of 64-bit integers. -/
  | integerTooWide
  /-- A record has no field of this name. -/
  | noSuchField (record field : String)
  /-- A unit of work was used after its end. -/
  | closedUnit
  /-- A text is not a database address. -/
  | invalidDatabaseUrl
  /-- The port of a database address is empty. -/
  | emptyPort
  /-- A level name is unknown. -/
  | unknownLevel (level : Value)
  /-- Arguments of a message template are left over. -/
  | unusedArguments
  /-- A message template asks for more arguments than there are. -/
  | missingArgument
  /-- A message template ends within a placeholder. -/
  | unfinishedTemplate
  /-- A message template has a placeholder of no known form. -/
  | unknownPlaceholder (form : Char) (position : Nat)
  /-- The name of an entry of a message template does not end. -/
  | unfinishedEntry
  /-- A message template names an entry, but there is no dictionary. -/
  | dictionaryExpected
  /-- A width or a precision of a message template is no integer. -/
  | extentExpected
  /-- A width or a precision in a message template is too large. -/
  | extentTooLarge (role : ExtentRole)
  /-- A width or a precision among the arguments of a message template is out of range. -/
  | extentOutOfRange (role : ExtentRole)
  /-- A placeholder for characters got another value. -/
  | characterExpected
  /-- A placeholder for characters got a number that no character has. -/
  | characterTooLarge
  /-- A placeholder for doubles got another value. -/
  | realExpected (got : Value)
  /-- A placeholder for numbers got another value. -/
  | placeholderMismatch (form : Char) (needed : String) (got : Value)
  /-- A number of the host was not a number. -/
  | numberExpected (value : Value)
  /-- A numeral could not be read. -/
  | invalidNumeral (text : String)
  /-- A part was asked of a value that has none. -/
  | noSuchPart (value : Value) (part : String)
  /-- Two values were subtracted that are not both numbers. -/
  | notSubtractable (left right : Value)
  /-- A text was empty where a word was needed. -/
  | noWord

namespace Fault

/-- The text of a failure that a database reports on a statement: what its driver says, the
statement, and where to read about such failures. -/
def statementText (driver message statement link : String) : String :=
  "(" ++ driver ++ ") " ++ message ++ "\n[SQL: " ++ statement ++
    "]\n(Background on this error at: " ++ link ++ ")"

/-- A message as a kind words it: a key is quoted, and what is operational about a database goes
with the statement that was tried.  A message does not say which; the statement here is the one that
asks a database whether it answers.  A failure that is reported with another statement is given with
its whole text. -/
def wording (kind : FaultKind) (message : Option String) : String :=
  match kind with
  | .key => (message.map quoted).getD ""
  | .operational =>
    statementText "builtins.Exception" (message.getD "") "SELECT 1" "https://sqlalche.me/e/21/e3q8"
  | _ => message.getD ""

/-- A failure of a kind with a message.  The message on a missing package is its name, which is the
empty one if none is given. -/
def raised (kind : FaultKind) (message : Option String) : Fault :=
  if h : kind = .missingPackage then .missingPackage (message.getD "")
  else .reported kind (wording kind message) h

/-- The kind of a failure on numbers. -/
def arithmeticKind : ArithmeticError → FaultKind
  | .integerOfNan => .value
  | .integerOfInfinity => .overflow
  | .tooLargeForDouble => .overflow
  | .divisionByZero => .zeroDivision

/-- The text of a failure on numbers. -/
def arithmeticText : ArithmeticError → String
  | .integerOfNan => "cannot convert float NaN to integer"
  | .integerOfInfinity => "cannot convert float infinity to integer"
  | .tooLargeForDouble => "int too large to convert to float"
  | .divisionByZero => "float division by zero"

/-- The kind of a failure. -/
def kind : Fault → FaultKind
  | reported kind _ _ => kind
  | missingPackage _ => .missingPackage
  | negativeCount _ | negativeSize _ | negativeDuration _ | tooManyDigits _ => .value
  | arithmetic cause => arithmeticKind cause
  | unknownEntityKind _ => .unknownEntityKind
  | invalidEntityKind _ => .value
  | invalidFields _ => .validation
  | noSuchTable _ => .operational
  | missingValue _ _ | duplicateValue _ _ => .integrity
  | timeWithoutOffset | timeOutOfRange => .statement
  | invalidStamp _ => .value
  | integerTooWide => .overflow
  | noSuchField _ _ => .value
  | closedUnit => .runtime
  | invalidDatabaseUrl => .databaseUrl
  | emptyPort => .mismatch
  | unknownLevel _ => .value
  | unusedArguments | missingArgument | placeholderMismatch _ _ _ => .mismatch
  | dictionaryExpected | extentExpected | characterExpected | realExpected _ => .mismatch
  | unfinishedTemplate | unfinishedEntry | unknownPlaceholder _ _ => .value
  | extentTooLarge _ => .value
  | characterTooLarge | extentOutOfRange _ => .overflow
  | numberExpected _ | notSubtractable _ _ => .mismatch
  | invalidNumeral _ => .value
  | noSuchPart _ _ => .missingAttribute
  | noWord => .index

@[simp] theorem kind_raised (k : FaultKind) (message : Option String) :
    (raised k message).kind = k := by
  unfold raised
  split
  · exact Eq.symm ‹_›
  · rfl

/-- The text of a failure. -/
def text : Fault → String
  | reported _ text _ => text
  | missingPackage name => "No package metadata was found for " ++ name
  | negativeCount n => "count must be non-negative, got " ++ toString n
  | negativeSize n => "byte count must be non-negative, got " ++ n.text
  | negativeDuration n => "duration must be non-negative, got " ++ n.text
  | arithmetic cause => arithmeticText cause
  | tooManyDigits limit =>
    "Exceeds the limit (" ++ toString limit ++ " digits) for integer string conversion; " ++
      "use sys.set_int_max_str_digits() to increase the limit"
  | unknownEntityKind v => "Unknown entity kind: " ++ v.quoted
  | invalidEntityKind v => v.quoted ++ " is not a valid EntityKind"
  | invalidFields problems =>
    "; ".intercalate (problems.map fun problem => problem.1 ++ ": " ++ problem.2.text)
  | noSuchTable table => "(sqlite3.OperationalError) no such table: " ++ table
  | missingValue table column =>
    "(sqlite3.IntegrityError) NOT NULL constraint failed: " ++ table ++ "." ++ column
  | duplicateValue table column =>
    "(sqlite3.IntegrityError) UNIQUE constraint failed: " ++ table ++ "." ++ column
  | timeWithoutOffset =>
    "(builtins.ValueError) Datetime values must have timezone information. " ++
      "Use datetime.now(timezone.utc), or annotate the field with NaiveDatetime " ++
      "for naive storage."
  | timeOutOfRange => "(builtins.OverflowError) date value out of range"
  | invalidStamp problem => problem.text
  | integerTooWide => "Python int too large to convert to SQLite INTEGER"
  | noSuchField record field =>
    "\x22" ++ record ++ "\x22 object has no field \x22" ++ field ++ "\x22"
  | closedUnit => "UnitOfWork is not active, use it as a context manager."
  | invalidDatabaseUrl => "Could not parse SQLAlchemy URL from given URL string"
  | emptyPort => "Port argument must be an integer or None"
  | unknownLevel level => "Unknown level: " ++ level.quoted
  | unusedArguments => "not all arguments converted during string formatting"
  | missingArgument => "not enough arguments for format string"
  | unfinishedTemplate => "incomplete format"
  | unfinishedEntry => "incomplete format key"
  | dictionaryExpected => "format requires a mapping"
  | extentExpected => "* wants int"
  | extentTooLarge role => role.name ++ " too big"
  | extentOutOfRange role => "Python int too large to convert to C " ++ role.machineType
  | characterExpected => "%c requires int or char"
  | characterTooLarge => "%c arg not in range(0x110000)"
  | realExpected got => "must be real number, not " ++ got.shapeName
  | unknownPlaceholder form position =>
    let shown := if 0x20 ≤ form.toNat && form.toNat < 0x7f then form else '?'
    "unsupported format character '" ++ String.singleton shown ++ "' (0x" ++
      String.ofList (Nat.toDigits 16 form.toNat) ++ ") at index " ++ toString position
  | placeholderMismatch form needed got =>
    "%" ++ String.singleton form ++ " format: " ++ needed ++ " is required, not " ++ got.shapeName
  | numberExpected v =>
    "int() argument must be a string, a bytes-like object or a real number, not '" ++
      v.shapeName ++ "'"
  | invalidNumeral s => "invalid literal for int() with base 10: " ++ ForgeDashboard.quoted s
  | noSuchPart v part =>
    "'" ++ v.shapeName ++ "' object has no attribute '" ++ part ++ "'"
  | notSubtractable left right =>
    "unsupported operand type(s) for -: '" ++ left.shapeName ++ "' and '" ++ right.shapeName ++ "'"
  | noWord => "list index out of range"

/-- What is shown for a failure: its text, or the name of its kind if the text is empty. -/
def reason (f : Fault) : String := if f.text = "" then f.kind.name else f.text

/-- The first line of a text. -/
def firstLine (s : String) : String := String.ofList (s.toList.takeWhile (· != '\n'))

/-- What a list of store failures keeps of a failure: of a message of the database only the line
with the cause. -/
def brief (f : Fault) : String := if f.kind.isDatabase then firstLine f.text else f.text

end Fault

end ForgeDashboard
