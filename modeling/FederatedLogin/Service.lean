import FederatedLogin.Http.CrossOrigin
import FederatedLogin.Service.Access
import FederatedLogin.Service.Login
import FederatedLogin.Service.Report

/-!
# The service

Each path has one method. A path that differs from a known one in slashes at its end is redirected.
Only a login can change the store.
-/

namespace FederatedLogin.Service

/-- The version of the service. -/
def version : String := "0.1.0"

/-- What can be asked for. -/
inductive Route where
  | health | login | profile | logout | roles | roleMappings
  deriving DecidableEq, Repr

namespace Route

/-- Every route. -/
def all : List Route := [health, login, profile, logout, roles, roleMappings]

/-- The path of a route. -/
def path : Route → String
  | health => "/health"
  | login => "/api/v1/auth/login"
  | profile => "/api/v1/auth/me"
  | logout => "/api/v1/auth/logout"
  | roles => "/api/v1/admin/roles"
  | roleMappings => "/api/v1/admin/role-mappings"

/-- The method of a route. -/
def method : Route → String
  | login | logout => "POST"
  | _ => "GET"

/-- The route with a path. -/
def ofPath? (p : String) : Option Route := all.find? (·.path == p)

end Route

/-- The path that differs in slashes at its end: without them if there are any, else with one. -/
def otherPath (p : String) : String :=
  if p.endsWith "/" then String.ofList (p.toList.reverse.dropWhile (· = '/')).reverse else p ++ "/"

/-- The answer to a request for no route. -/
def noRoute (r : Http.Request) : Http.Response :=
  let other := otherPath r.path
  if r.path ≠ "/" ∧ (Route.ofPath? other).isSome then
    let query := if r.query.isEmpty then "" else "?" ++ r.query
    ⟨307, [("location", "http://" ++ (r.header? "host").getD "test" ++ other ++ query)], .empty⟩
  else Http.refusal 404 "Not Found" []

/-- The answer, or the refusal, of a request that needs access. -/
def guarded (u : Except Access.Stop User) (f : User → Except Unhandled Http.Response) :
    Except Unhandled Http.Response :=
  match u with
  | .ok u => f u
  | .error (.refused r) => .ok r.response
  | .error (.failed e) => .error e

/-- Answer a request for a route. -/
def serve (c : Context) (r : Http.Request) (st : State) :
    Route → Except Unhandled Http.Response × State × List Notice
  | .login => Login.answer c r st
  | .health =>
    (.ok ⟨200, [], .json (.object [("status", .str "ok"), ("version", .str version)])⟩, st, [])
  | .logout => (.ok ⟨204, [], .empty⟩, st, [])
  | .profile =>
    (guarded (Access.activeUser c st.store r) fun u =>
      .ok ⟨200, [], .json (profile (st.store.getD {}) u)⟩, st, [])
  | .roles =>
    (guarded (Access.admin c st.store r) fun _ =>
      .ok ⟨200, [], .json (Report.roles (st.store.getD {}))⟩, st, [])
  | .roleMappings =>
    (guarded (Access.admin c st.store r) fun _ =>
      (Report.mappings c (st.store.getD {})).map fun d => ⟨200, [], .json d⟩, st, [])

/-- Answer a request, origins aside. -/
def respond (c : Context) (r : Http.Request) (st : State) :
    Except Unhandled Http.Response × State × List Notice :=
  match Route.ofPath? r.path with
  | none => (.ok (noRoute r), st, [])
  | some route =>
    if r.method = route.method then serve c r st route
    else (.ok (Http.refusal 405 "Method Not Allowed" [("allow", route.method)]), st, [])

/-- What is sent of an answer: a request for the headers alone gets no content. -/
def sent (r : Http.Request) (a : Http.Response) : Http.Response :=
  if r.method = "HEAD" then { a with body := .empty } else a

/-- Answer a request. -/
def handle (c : Context) (r : Http.Request) (st : State) :
    Except Unhandled Http.Response × State × List Notice :=
  match Http.CrossOrigin.preflight? c.settings.corsOrigins r with
  | some a => (.ok a, st, [])
  | none =>
    let (result, st, notices) := respond c r st
    (result.map fun a => sent r (Http.CrossOrigin.mark c.settings.corsOrigins r a), st, notices)

end FederatedLogin.Service
