import FederatedLogin.Password
import FederatedLogin.Settings
import FederatedLogin.Store.Action

/-!
# Starting the service

At its start the service makes sure that the configured roles and the default role exist. If there
are no users at all it creates the first one, an administrator with the configured email and
password.
-/

namespace FederatedLogin

/-- The roles that exist after a start: the configured ones and the default role, each once. -/
def Settings.wantedRoles (s : Settings) : List String :=
  (s.seedRoles ++ [s.defaultRoleSlug]).foldl
    (fun got slug => if got.contains slug then got else got ++ [slug]) []

namespace Startup

/-- Why the service does not start. -/
inductive Failure where
  | password (refusal : Password.Refusal)
  | store (fault : Store.Fault)
  deriving DecidableEq, Repr

/-- The slug of the first user's role. -/
def adminSlug : String := "admin"

/-- The first user. -/
def firstUser (s : Settings) (id : Uuid) (role : Role) (hash : String) : User where
  id := id
  email := Text.lower s.adminEmail
  firstName := "Admin"
  role := role.slug
  hashedPassword := some hash

/-- Create the first user, if there are no users. -/
def bootstrapAdmin (s : Settings) (id : Uuid) (salt : String) : Action Failure Unit := do
  if (← Action.store).users.isEmpty then
    match ← Action.findRole .store adminSlug with
    | none => Action.report .bootstrapSkipped
    | some role =>
      let hash ← Action.of ((Password.hash salt s.adminPassword).mapError .password)
      let store ← Action.of
        (((← Action.store).insert (firstUser s id role hash)).mapError .store)
      Action.put store
      Action.report (.bootstrapCreated s.adminEmail)

end Startup

/-- Start the service and stop it again. The identifier and the salt are for the first user. -/
def startup (s : Settings) (id : Uuid) (salt : String) : Action Startup.Failure Unit := do
  let _ ← Action.ensureRoles s.wantedRoles
  Startup.bootstrapAdmin s id salt
  Action.report .stopped

/-- Start the service on the tables, if they exist, and stop it again. -/
def Startup.run (s : Settings) (id : Uuid) (salt : String) (store : Option Store) :
    Except Failure Unit × Option Store × List Notice :=
  let (result, store, notices) := (startup s id salt).startOn (.store .noTables) store
  (result, store, .starting s.appDebug :: notices)

end FederatedLogin
