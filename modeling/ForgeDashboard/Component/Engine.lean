import ForgeDashboard.Reading

/-!
# Database engines

A database engine speaks one dialect of the query language, and each dialect has its own query for
the server version.  Asking for it may fail on connecting or on reading the answer.

## Main definitions

* `Engine` : a database engine.
* `Engine.label`, `Engine.versionQuery` : what a dialect is called, and its query.
* `Engine.serverVersion` : the version of the server.
-/

namespace ForgeDashboard

/-- A database engine: its dialect, whether connecting fails, and what its version query gives. -/
structure Engine where
  dialect : String
  connectFailure : Option Fault
  version : Reading

namespace Engine

/-- The name under which a database is shown. -/
def label (e : Engine) : String :=
  if e.dialect = "postgresql" then "PostgreSQL"
  else if e.dialect = "sqlite" then "SQLite"
  else e.dialect

/-- The query for the version of a server. -/
def versionQuery (e : Engine) : String :=
  if e.dialect = "postgresql" then "SHOW server_version"
  else if e.dialect = "sqlite" then "SELECT sqlite_version()"
  else "SELECT version()"

/-- The queries that asking for the version runs: none if connecting fails. -/
def versionQueries (e : Engine) : List String :=
  match e.connectFailure with
  | some _ => []
  | none => [e.versionQuery]

/-- The version of the server, as text. -/
def serverVersion (e : Engine) : Except Fault String :=
  match e.connectFailure with
  | some f => .error f
  | none => e.version.map Value.shown

end Engine

end ForgeDashboard
