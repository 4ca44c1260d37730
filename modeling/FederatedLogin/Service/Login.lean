import FederatedLogin.Service.Context

/-!
# Logging in

A login is tried with the external directory first, if it is switched on, and then with the local
password. Every failure that is foreseen gives the same refusal, so that a client cannot tell an
unknown account from a disabled one or from a wrong password; the log has the reason.
-/

namespace FederatedLogin.Service.Login

/-- What the external directory says about a login. -/
inductive Verdict where
  /-- It is not switched on, or does not know the user and password. -/
  | silent
  | vouched (a : Assertion)
  /-- It cannot be asked, or its answer cannot be used. -/
  | broken (cause : String)
  deriving DecidableEq, Repr

/-- A directory failure that a login foresees. -/
def foreseenDirectory : Directory.Failure → Bool
  | .queryFailed | .unreadableRow | .invalidIdentity _ => true
  | .rolesTooDeep | .hashNotText _ => false

/-- A failure to reconcile that a login foresees. -/
def foreseenReconcile : Reconcile.Failure → Bool
  | .provisioningDisabled _ | .defaultRoleMissing _ | .duplicateEmail _ | .store _ => true
  | .mappingBeyond _ | .slugNotText _ => false

/-- Ask the directory. -/
def ask (c : Context) (setup : Directory.Setup) (email password : String) :
    Except Unhandled Verdict :=
  match setup with
  | .on _ address d =>
    match d.authenticate (c.tables address) email password with
    | .ok none => .ok .silent
    | .ok (some a) => .ok (.vouched a)
    | .error f => if foreseenDirectory f then .ok (.broken f.message) else .error (.directory f)
  | _ => .ok .silent

/-- The local user whose password fits. -/
def localUser (email password : String) : Action Unhandled (Option User) := do
  let found ← Action.findUser .store email
  return found.filter fun u => u.hashedPassword.any fun h => !h.isEmpty && Password.check password h

/-- The user who logs in, if there is one. -/
def user (c : Context) (email password : String) : Verdict → Action Unhandled (Option User)
  | .silent => localUser email password
  | .broken cause => do
    Action.report (.externalLoginFailed email cause)
    return none
  | .vouched a => do
    match ← (reconcile (c.settings.policy c.mappings) c.newId 0 a).run with
    | .ok u => return some u
    | .error f =>
      unless foreseenReconcile f do Action.fail (.reconcile f)
      Action.report (.externalLoginFailed email f.message)
      return none

/-- A successful login. -/
structure Grant where
  user : User
  token : String

/-- Let a user in who is not disabled. -/
def letIn (c : Context) (u : User) : Action Unhandled (Option Grant) := do
  if u.isActive then
    let token ← Action.of
      ((Token.issue c.settings c.now (.str u.id.text) (.str u.role) (.str u.provider)).mapError
        .issue)
    return some ⟨u, token⟩
  else
    Action.report (.disabledAccount u.email)
    return none

/-- Try a login after the directory's verdict. -/
def attempt (c : Context) (email password : String) (v : Verdict) :
    Action Unhandled (Option Grant) := do
  match ← user c email password v with
  | none => return none
  | some u => letIn c u

/-- The one refusal of a login. -/
def refused : Http.Response := Http.refusal 401 "Invalid credentials" Http.challenge

/-- The answer to a successful login. -/
def granted (s : Store) (g : Grant) : Http.Response :=
  ⟨200, [], .json (.object [("access_token", .str g.token), ("token_type", .str "bearer"),
    ("user", profile s g.user)])⟩

/-! ### The form -/

/-- A complaint about a form field. -/
def complaint (name kind message : String) (input : Datum) (more : List (String × Datum)) : Datum :=
  .object ([("type", .str kind), ("loc", .list [.str "body", .str name]), ("msg", .str message),
    ("input", input)] ++ more)

/-- What is wrong with a login form. -/
def complaints (r : Http.Request) : List Datum :=
  let missing (name : String) : List Datum :=
    match r.field? name with
    | some _ => []
    | none => [complaint name "missing" "Field required" .null []]
  let grant := match r.field? "grant_type" with
    | none | some "password" => []
    | some other => [complaint "grant_type" "string_pattern_mismatch"
        "String should match pattern '^password$'" (.str other)
        [("ctx", .object [("pattern", .str "^password$")])]]
  grant ++ missing "username" ++ missing "password"

/-! ### The answer -/

/-- How many logins are let through. -/
def limit : Nat := 10

/-- The answer to one login too many. -/
def limited : Http.Response :=
  ⟨429, [], .json (.object [("error", .str "Rate limit exceeded: 10 per 1 minute")])⟩

/-- Handle a login whose form is in order and that is within the limit. -/
def handle (c : Context) (setup : Directory.Setup) (email password : String) (st : State) :
    Except Unhandled Http.Response × State × List Notice :=
  match ask c setup email password with
  | .error e => (.error e, st, [])
  | .ok v =>
    match (attempt c email password v).startOn (.store .noTables) st.store with
    | (.error e, store, notices) => (.error e, { st with store := store }, notices)
    | (.ok none, store, notices) => (.ok refused, { st with store := store }, notices)
    | (.ok (some g), store, notices) =>
      (.ok (granted (store.getD {}) g), { st with store := store }, notices)

/-- Handle a login request. The directory is set up even if the form is not in order. -/
def answer (c : Context) (r : Http.Request) (st : State) :
    Except Unhandled Http.Response × State × List Notice :=
  match (Directory.ofSettings [] c.settings).1 with
  | .error e => (.error (.setup e), st, [])
  | .ok setup =>
    let complaints := complaints r
    if !complaints.isEmpty then
      (.ok ⟨422, [], .json (.object [("detail", .list complaints)])⟩, st, setup.notices)
    else if limit ≤ st.logins then (.ok limited, st, setup.notices)
    else
      let st := { st with logins := st.logins + 1 }
      let email := Text.strip ((r.field? "username").getD "")
      let (result, st, notices) := handle c setup email ((r.field? "password").getD "") st
      (result, st, setup.notices ++ notices)

end FederatedLogin.Service.Login
