import ForgeDashboard.Reading
import ForgeDashboard.Text.Percent
import ForgeDashboard.Text.Word

/-!
# Database addresses

An address names a driver and then, each of them optional, a user with a password, a host, a port,
the database, and a query.  Whatever follows in none of these places is ignored.

## Main definitions

* `DatabaseAddress` : the parts of an address.
* `DatabaseAddress.parse` : the parts of a text.
-/

namespace ForgeDashboard

/-- The parts of a database address. -/
structure DatabaseAddress where
  driver : String
  user : Option String
  password : Option String
  host : Option String
  port : Option Int
  database : Option String
  query : Option String
  deriving DecidableEq

namespace DatabaseAddress

/-- The dialect of the database: the name of the driver up to a plus sign. -/
def dialect (a : DatabaseAddress) : String :=
  String.ofList (a.driver.toList.takeWhile (· != '+'))

/-- The characters up to the last occurrence of one, and those after it. -/
def splitLast? (mark : Char) (cs : List Char) : Option (List Char × List Char) :=
  if cs.contains mark then
    let tail := (cs.reverse.takeWhile (· != mark)).reverse
    some (cs.take (cs.length - tail.length - 1), tail)
  else none

/-- The user and the password at the front, and what follows them.  A password follows a colon and
ends at the first at sign; without one, the user ends at the last at sign before a slash or a
colon. -/
def readUser (cs : List Char) : Option (List Char) × Option (List Char) × List Char :=
  let head := cs.takeWhile fun c => c != ':' && c != '/'
  let tail := cs.drop head.length
  let withoutPassword := match splitLast? '@' head with
    | some (user, rest) => (some user, none, rest ++ tail)
    | none => (none, none, cs)
  match tail with
  | ':' :: rest =>
    match rest.dropWhile (· != '@') with
    | _ :: after => (some head, some (rest.takeWhile (· != '@')), after)
    | [] => withoutPassword
  | _ => withoutPassword

/-- A host between square brackets at the front, and what follows it. -/
def readBracketed? (cs : List Char) : Option (List Char × List Char) :=
  match cs with
  | '[' :: rest =>
    let head := rest.takeWhile fun c => c != '/' && c != '?'
    match splitLast? ']' head with
    | some (host, after) =>
      if host.isEmpty then none else some (host, after ++ rest.drop head.length)
    | none => none
  | _ => none

/-- A host at the front, if there is one, and what follows it. -/
def readHost (cs : List Char) : Option (List Char) × List Char :=
  match readBracketed? cs with
  | some (host, rest) => (some host, rest)
  | none =>
    let host := cs.takeWhile fun c => c != '/' && c != ':' && c != '?'
    (if host.isEmpty then none else some host, cs.drop host.length)

/-- A part that follows a mark at the front and ends before certain characters, and what follows
it. -/
def readPart (mark : Char) (goesOn : Char → Bool) (cs : List Char) :
    Option (List Char) × List Char :=
  match cs with
  | c :: rest =>
    if c = mark then (some (rest.takeWhile goesOn), rest.dropWhile goesOn) else (none, cs)
  | [] => (none, [])

/-- The number of a port, which must not be empty. -/
def readPort (cs : Option (List Char)) : Except Fault (Option Int) :=
  match cs with
  | none => .ok none
  | some [] => .error .emptyPort
  | some digits => some <$> (Value.text (String.ofList digits)).toInteger

/-- May the character stand in the name of a driver? -/
def isDriverChar (c : Char) : Bool := isWordChar c || c == '+'

/-- The parts of a text. -/
def parse (s : String) : Except Fault DatabaseAddress :=
  let cs := s.toList
  let driver := cs.takeWhile isDriverChar
  match cs.drop driver.length with
  | ':' :: '/' :: '/' :: rest =>
    if driver.isEmpty then .error .invalidDatabaseUrl
    else do
      let (user, password, rest) := readUser rest
      let (host, rest) := readHost rest
      let (port, rest) := readPart ':' (fun c => c != '/' && c != '?') rest
      let (database, rest) := readPart '/' (· != '?') rest
      let (query, _) := readPart '?' (· != '\n') rest
      return {
        driver := String.ofList driver
        user := user.map (String.ofList ∘ percentDecoded)
        password := password.map (String.ofList ∘ percentDecoded)
        host := host.map String.ofList
        port := ← readPort port
        database := database.map (String.ofList ∘ percentDecoded)
        query := query.map String.ofList }
  | _ => .error .invalidDatabaseUrl

end DatabaseAddress

end ForgeDashboard
