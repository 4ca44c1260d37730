import FederatedLogin.Directory
import FederatedLogin.Http.Message
import FederatedLogin.Reconcile
import FederatedLogin.Token

/-!
# What the service works with

A request is handled in a context that it cannot change: the settings as they were read once, the
surroundings as they are now, the time, and the external databases. It can change the store and
the number of logins that count towards the limit. A failure that no answer is foreseen for is
`Unhandled`.
-/

namespace FederatedLogin.Service

/-- What a request cannot change. -/
structure Context where
  settings : Settings
  /-- The role mapping texts as they are now. -/
  mappings : MappingTexts
  /-- The time, in seconds since 1970. -/
  now : Int
  /-- The identifier for a user that the request creates. -/
  newId : Uuid
  /-- The tables of external databases, by the address of each. -/
  databases : List (String × List Directory.Table)
  deriving Inhabited

/-- The tables of the database at an address. -/
def Context.tables (c : Context) (address : Address) : List Directory.Table :=
  (c.databases.lookup address.text).getD []

/-- What a request can change. -/
structure State where
  /-- The store, unless its tables are missing. -/
  store : Option Store
  /-- How many logins have counted towards the limit. -/
  logins : Nat := 0
  deriving Inhabited

/-- A failure that no answer is foreseen for. -/
inductive Unhandled where
  | setup (e : Directory.SetupError)
  | directory (f : Directory.Failure)
  | reconcile (f : Reconcile.Failure)
  | issue (e : Token.IssueError)
  /-- The key of the tokens cannot be used. -/
  | tokenKey (flaw : Token.KeyFlaw)
  | mapping (limit : Json.Limit)
  | report (faults : List FieldFault)
  | store (fault : Store.Fault)
  deriving DecidableEq, Repr

/-- The part of a user's data that clients see. -/
def profile (s : Store) (u : User) : Datum :=
  let shownName := ((s.roles.find? (·.slug == u.role)).map (·.displayName)).getD ""
  .object [("id", .str u.id.text), ("email", .str u.email), ("first_name", .str u.firstName),
    ("last_name", .str u.lastName),
    ("role", .object [("slug", .str u.role), ("display_name", .str shownName)]),
    ("is_active", .bool u.isActive), ("auth_provider", .str u.provider)]

end FederatedLogin.Service
