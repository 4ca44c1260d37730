import FederatedLogin.Service.Context

/-!
# Access with a token

A token only says who its bearer is. Whether the user exists, is active and may administrate is
decided by the store at the time of the request.
-/

namespace FederatedLogin.Service.Access

/-- The roles whose users may administrate. -/
def adminSlugs : List String := ["owner", "admin"]

/-- Why a request is refused. -/
inductive Refusal where
  | notAuthenticated
  | badToken (r : Token.Rejection)
  /-- The subject of the token is no identifier. -/
  | badSubject
  | unknownUser
  | disabled
  | notAdmin
  deriving DecidableEq, Repr

/-- The answer to a refused request. -/
def Refusal.response : Refusal → Http.Response
  | notAuthenticated => Http.refusal 401 "Not authenticated" Http.challenge
  | badToken r => Http.refusal 401 r.message Http.challenge
  | badSubject => Http.refusal 401 "Invalid token" []
  | unknownUser => Http.refusal 401 "User not found" []
  | disabled => Http.refusal 403 "Account disabled" []
  | notAdmin => Http.refusal 403 "Admin access required" []

/-- Why a request does not get through: it is refused, or something fails that no answer is foreseen
for. -/
inductive Stop where
  | refused (r : Refusal)
  | failed (e : Unhandled)
  deriving DecidableEq, Repr

/-- The token in a request: what follows the word "bearer", in any case of letters, and one
blank. -/
def bearer? (r : Http.Request) : Option String :=
  match r.header? "authorization" with
  | none | some "" => none
  | some value =>
    let (scheme, rest) := value.toList.span (· ≠ ' ')
    if Text.lower (String.ofList scheme) = "bearer" then some (String.ofList (rest.drop 1))
    else none

/-- The identifier that accepted claims name. -/
def subject? (claims : List (Text × Datum)) : Option Uuid :=
  ((Token.field? claims "sub").bind Datum.toString?).bind Uuid.ofText?

/-- The claims of a token. -/
def claims (c : Context) (token : String) : Except Stop (List (Text × Datum)) :=
  match Token.read c.settings c.now token with
  | .ok claims => .ok claims
  | .error (.rejected r) => .error (.refused (.badToken r))
  | .error (.key flaw) => .error (.failed (.tokenKey flaw))

/-- The user whom a token names. -/
def userOf (c : Context) (store : Option Store) (token : String) : Except Stop User := do
  match subject? (← claims c token) with
  | none => .error (.refused .badSubject)
  | some id =>
    match store with
    | none => .error (.failed (.store .noTables))
    | some s =>
      match s.findById id with
      | none => .error (.refused .unknownUser)
      | some u => .ok u

/-- The user of a request. -/
def currentUser (c : Context) (store : Option Store) (r : Http.Request) : Except Stop User :=
  match bearer? r with
  | none => .error (.refused .notAuthenticated)
  | some token => userOf c store token

/-- The user of a request, who must be active. -/
def activeUser (c : Context) (store : Option Store) (r : Http.Request) : Except Stop User := do
  let u ← currentUser c store r
  if u.isActive then return u else .error (.refused .disabled)

/-- The user of a request, who must be active and hold a role that may administrate. -/
def admin (c : Context) (store : Option Store) (r : Http.Request) : Except Stop User := do
  let u ← activeUser c store r
  if adminSlugs.contains u.role then return u else .error (.refused .notAdmin)

end FederatedLogin.Service.Access
