import ForgeDashboard.Service.Deployment
import ForgeDashboard.Text.Percent

/-!
# The web service

The service offers the dashboard, the component versions, and a sign of life, each at an address of
its own.  When it starts it makes the missing tables and finds out the component versions; they stay
as they are while it runs.  It does not start if one of the two fails.

## Main definitions

* `Endpoint` : what the service offers.
* `Request`, `Response` : a request, and the answer to it.
* `App`, `App.start`, `App.respond` : the running service.
-/

namespace ForgeDashboard

/-- What the service offers. -/
inductive Endpoint where
  | dashboard
  | versions
  | health
  deriving DecidableEq

namespace Endpoint

/-- Everything the service offers. -/
def all : List Endpoint := [dashboard, versions, health]

/-- The address of an endpoint. -/
def path : Endpoint → String
  | dashboard => "/admin"
  | versions => "/admin/versions"
  | health => "/health"

/-- The endpoint at an address. -/
def ofPath? (s : String) : Option Endpoint := all.find? (·.path == s)

end Endpoint

/-- A request: what is to be done, and to what. -/
structure Request where
  method : String
  target : String

namespace Request

/-- The address that is asked for, without its query. -/
def path (r : Request) : String :=
  String.ofList (percentDecoded (r.target.toList.takeWhile fun c => c != '?' && c != '#'))

/-- The method in capital letters. -/
def verb (r : Request) : String := String.ofList (r.method.toList.map Char.toUpper)

end Request

/-- An address with a slash at its end, or, if it has one, without any there. -/
def otherSlash (path : String) : String :=
  let cs := path.toList
  if cs.getLast? = some '/' then String.ofList (cs.reverse.dropWhile (· == '/')).reverse
  else path ++ "/"

/-- An answer: its status, and its document if it has one. -/
structure Response where
  status : Nat
  body : Option Document

namespace Response

/-- An answer that only says what is wrong. -/
def refusal (status : Nat) (detail : String) : Response :=
  ⟨status, some (.object [("detail", .text detail)])⟩

/-- The answer as it is sent to a request: one that asks for the header only gets no document. -/
def sentTo (request : Request) (r : Response) : Response :=
  if request.verb = "HEAD" then { r with body := none } else r

end Response

/-- The running service, with the component versions found out at its start. -/
structure App where
  registry : Registry

namespace App

/-- Starts the service on a deployment, in which it makes the missing tables. -/
def start (d : Deployment) : Except Fault (App × Deployment) := do
  let d ← d.createTables
  let resolution ← d.resolve
  return (⟨resolution.registry⟩, d)

/-- The document of an endpoint. -/
def document (app : App) (d : Deployment) : Endpoint → Except Fault Document
  | .dashboard => View.document <$> (d.dashboard app.registry).view
  | .versions => do
    let views ← app.registry.components.mapM componentView
    return .list (views.map ComponentView.document)
  | .health => return .object [("status", .text "ok")]

/-- Answers a request.  Each address knows one method; an address that only differs from a known one
in the slash at its end is referred there. -/
def respond (app : App) (d : Deployment) (request : Request) : Except Fault Response :=
  Response.sentTo request <$>
    match Endpoint.ofPath? request.path with
    | some endpoint =>
      if request.verb = "GET" then do return ⟨200, some (← app.document d endpoint)⟩
      else .ok (.refusal 405 "Method Not Allowed")
    | none =>
      if (Endpoint.ofPath? (otherSlash request.path)).isSome then .ok ⟨307, none⟩
      else .ok (.refusal 404 "Not Found")

end App

end ForgeDashboard
