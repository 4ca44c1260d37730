import FederatedLogin.Proofs.Login.Soundness
import FederatedLogin.Proofs.Reconcile.Result

/-!
# Which requests write

Looking up a user, checking a password and issuing a token only read. So a login attempt leaves the
store as it is, unless the directory vouches for an identity, and then it leaves what reconciling
this identity leaves (`store_attempt_of_vouched`).

`store_of_request` says this of all requests and of every store, be it consistent or not: a request
writes only if it is a login that the directory authenticates.
-/

namespace FederatedLogin.Service.Login

variable {c : Context} {r : Http.Request} {st : State} {email password : String} {v : Verdict}
  {a : Assertion}

/-- The directory authenticates a login request: the form is in order and the login within the
limit, the directory is switched on, it has a row for the submitted email, and the submitted
password fits the hash in the row, which makes an assertion. -/
structure Authenticated (c : Context) (r : Http.Request) (st : State) (a : Assertion) : Prop where
  login : IsLogin r
  order : complaints r = []
  within : st.logins < limit
  enabled : c.settings.postgresEnabled = true
  row : ∃ pool address d e, (Directory.ofSettings [] c.settings).1 = .ok (.on pool address d) ∧
    d.find (c.tables address) (submittedEmail r) = .ok (some e) ∧
    Password.checkStored (submittedPassword r) e.passwordHash = .ok true ∧ e.assertion = .ok a

/-- What reconciling an assertion leaves of the tables, if there are any. -/
def reconciledStore (c : Context) (a : Assertion) (store : Option Store) : Option Store :=
  store.map fun s => ((reconcile (c.settings.policy c.mappings) c.newId 0 a).start s).2.store

/-! ### Attempts -/

theorem readsOnly_localUser (email password : String) : (localUser email password).ReadsOnly :=
  .bind (Action.readsOnly_findUser _ _) fun _ => Action.readsOnly_pure _

theorem readsOnly_letIn (c : Context) (u : User) : (letIn c u).ReadsOnly :=
  .ite (.bind (Action.readsOnly_of _) fun _ => Action.readsOnly_pure _)
    (.bind (Action.readsOnly_report _) fun _ => Action.readsOnly_pure _)

/-- The user is let in, or not, after everything is written. -/
theorem store_attempt (c : Context) (email password : String) (v : Verdict) (q : Progress) :
    ((attempt c email password v).exec q).2.store =
      ((user c email password v).exec q).2.store := by
  refine Action.store_exec_bind (fun found => ?_) q
  rcases found with _ | u
  · exact Action.readsOnly_pure _
  · exact readsOnly_letIn c u

/-- Without a vouching directory a login writes nothing. -/
theorem readsOnly_user (hv : ∀ a, v ≠ .vouched a) : (user c email password v).ReadsOnly := by
  cases v with
  | silent => exact readsOnly_localUser email password
  | broken cause => exact .bind (Action.readsOnly_report _) fun _ => Action.readsOnly_pure _
  | vouched a => exact absurd rfl (hv a)

/-- Without a vouched identity, an attempt writes nothing. -/
theorem readsOnly_attempt (hv : ∀ a, v ≠ .vouched a) : (attempt c email password v).ReadsOnly :=
  fun q => (store_attempt c email password v q).trans (readsOnly_user hv q)

/-- What follows a reconciliation only reads, whether it has succeeded or not. -/
theorem store_attempt_of_vouched (c : Context) (email password : String) (a : Assertion)
    (q : Progress) :
    ((attempt c email password (.vouched a)).exec q).2.store =
      ((reconcile (c.settings.policy c.mappings) c.newId 0 a).exec q).2.store := by
  have hrun : ((liftM (reconcile (c.settings.policy c.mappings) c.newId 0 a).run :
        Action Unhandled (Except Reconcile.Failure User)).exec q).2.store =
      ((reconcile (c.settings.policy c.mappings) c.newId 0 a).exec q).2.store := by
    rw [Action.exec_run]
  rw [store_attempt, user]
  refine (Action.store_exec_bind (fun result => ?_) q).trans hrun
  rcases result with f | u
  · have hreport : (do
        Action.report (.externalLoginFailed email f.message)
        return none : Action Unhandled (Option User)).ReadsOnly :=
      .bind (Action.readsOnly_report _) fun _ => Action.readsOnly_pure _
    exact .ite hreport (.bind (Action.readsOnly_fail _) fun _ => hreport)
  · exact Action.readsOnly_pure _

/-! ### Login requests -/

/-- The tables after an action, if there are any, are what the action leaves. -/
theorem store_startOn {ε α : Type} (b : Action ε α) (missing : ε) (store : Option Store) :
    (b.startOn missing store).2.1 = store.map fun s => (b.start s).2.store := by
  cases store <;> rfl

/-- After an answer of the directory the store is that of the attempt. -/
theorem store_handle_of_asked {setup : Directory.Setup} (st : State)
    (asked : ask c setup email password = .ok v) :
    (handle c setup email password st).2.1.store =
      st.store.map fun s => ((attempt c email password v).start s).2.store := by
  rw [← store_startOn _ (.store .noTables), handle, asked]
  dsimp only
  rcases (attempt c email password v).startOn (.store .noTables) st.store with
    ⟨_ | _ | g, store, notices⟩ <;> rfl

/-- A login whose directory vouches for nobody writes nothing. -/
theorem store_handle_of_unvouched {setup : Directory.Setup} (st : State)
    (unvouched : ∀ a, ask c setup email password ≠ .ok (.vouched a)) :
    (handle c setup email password st).2.1.store = st.store := by
  rcases hask : ask c setup email password with e | v
  · rw [handle, hask]
  · have hv (a : Assertion) : v ≠ .vouched a := fun h => unvouched a (hask.trans (h ▸ rfl))
    have hsame (s : Store) : ((attempt c email password v).start s).2.store = s :=
      readsOnly_attempt hv ⟨s, []⟩
    rw [store_handle_of_asked st hask]
    simp only [hsame, Option.map_id']

/-- A login that the directory vouches for leaves the store of its reconciliation. -/
theorem store_handle_of_vouched {setup : Directory.Setup} (st : State)
    (vouched : ask c setup email password = .ok (.vouched a)) :
    (handle c setup email password st).2.1.store = reconciledStore c a st.store := by
  rw [store_handle_of_asked st vouched, reconciledStore]
  congr 1
  funext s
  exact store_attempt_of_vouched c email password a ⟨s, []⟩

/-- An authenticated login is one that is in order and for which the directory vouches. -/
theorem authenticated_iff :
    Authenticated c r st a ↔ IsLogin r ∧ complaints r = [] ∧ st.logins < limit ∧
      ∃ setup, (Directory.ofSettings [] c.settings).1 = .ok setup ∧
        ask c setup (submittedEmail r) (submittedPassword r) = .ok (.vouched a) := by
  constructor
  · rintro ⟨login, order, within, -, pool, address, d, e, good, row, fits, assertion⟩
    refine ⟨login, order, within, _, good, ask_eq_vouched.mpr ⟨pool, address, d, rfl, ?_⟩⟩
    exact Directory.authenticate_eq_some.mpr ⟨e, row, fits, assertion⟩
  · rintro ⟨login, order, within, setup, good, asked⟩
    obtain ⟨pool, address, d, rfl, hauth⟩ := ask_eq_vouched.mp asked
    obtain ⟨e, row, fits, assertion⟩ := Directory.authenticate_eq_some.mp hauth
    exact ⟨login, order, within, enabled_of_setup good, pool, address, d, e, good, row, fits,
      assertion⟩

/-- The request of such a login leaves the store of its reconciliation. -/
theorem store_of_authenticated (h : Authenticated c r st a) :
    (Service.handle c r st).2.1.store = reconciledStore c a st.store := by
  obtain ⟨login, order, within, setup, good, asked⟩ := authenticated_iff.mp h
  rw [handle_of_isLogin login, answer_of_inOrder good order within]
  exact store_handle_of_vouched { st with logins := st.logins + 1 } asked

/-- Every other request leaves the store as it is, whatever it asks for and however it ends. -/
theorem store_of_not_authenticated (h : ∀ a, ¬Authenticated c r st a) :
    (Service.handle c r st).2.1.store = st.store := by
  by_cases login : IsLogin r
  swap
  · rw [handle_of_not_isLogin login]
  rw [handle_of_isLogin login]
  rcases good : (Directory.ofSettings [] c.settings).1 with e | setup
  · rw [answer, good]
  by_cases order : complaints r = []
  swap
  · simp [answer, good, order]
  rcases Nat.lt_or_ge st.logins limit with within | beyond
  swap
  · simp [answer, good, order, beyond]
  rw [answer_of_inOrder good order within]
  refine store_handle_of_unvouched { st with logins := st.logins + 1 } fun a asked => ?_
  exact h a (authenticated_iff.mpr ⟨login, order, within, setup, good, asked⟩)

/-! ### All requests -/

/-- Whatever the store, the settings and the directory are: a login that the directory authenticates
leaves what reconciling the directory's assertion leaves. Every other request leaves the store as it
is. -/
theorem store_of_request (c : Context) (r : Http.Request) (st : State) :
    (∀ a, Authenticated c r st a →
      (Service.handle c r st).2.1.store = reconciledStore c a st.store) ∧
    ((∀ a, ¬Authenticated c r st a) → (Service.handle c r st).2.1.store = st.store) :=
  ⟨fun _ => store_of_authenticated, store_of_not_authenticated⟩

/-! ### A login that writes -/

/-- A table of users with one row. -/
def userTable (hash : String) : Directory.Table where
  name := "users"
  columns := ["id", "email", "password_hash", "first_name", "last_name", "roles"]
  rows := [[.str "g-1", .str "grace@example.org", .str hash, .str "Grace", .null, .null]]

/-- The directory of this table. -/
def userDirectory : Directory := ⟨none, "users", "email", "password_hash"⟩

/-- What the directory has about the user. -/
def graceEntry (hash : String) : Directory.Entry :=
  ⟨Text.ofString "g-1", .str "grace@example.org", .str hash, .str "Grace", .str "", []⟩

/-- What the directory says about the user. -/
def graceAssertion : Assertion :=
  ⟨"grace@example.org", some "Grace", none, some "g-1", [], .postgres⟩

/-- The directory is switched on, and has the table. -/
def directoryContext (hash : String) : Context where
  settings :=
    { postgresEnabled := true
      postgresDsn := some "sqlite+aiosqlite:///dir.db" }
  mappings := {}
  now := 0
  newId := ⟨2⟩
  databases := [("sqlite+aiosqlite:///dir.db", [userTable hash])]

/-- A login form. -/
def graceForm : Http.Request where
  method := "POST"
  path := "/api/v1/auth/login"
  form := [("username", "Grace@Example.org"), ("password", "secret")]

private theorem columns?_userTable (hash : String) :
    userDirectory.columns? (userTable hash) = some ⟨0, 1, 2, 3, 4, 5⟩ := by
  have hcolumn (name : String) (i : Nat) (hname : '\n' ∉ name.toList)
      (hindex : (userTable "").columns.findIdx? (Directory.sameName name) = some i) :
      (userTable hash).column? name = some i := by
    rw [Directory.Table.column?, Directory.understood_eq_self hname]
    exact hindex
  have hid := hcolumn "id" 0 (by decide) (by decide +kernel)
  have hemail := hcolumn "email" 1 (by decide) (by decide +kernel)
  have hhash := hcolumn "password_hash" 2 (by decide) (by decide +kernel)
  have hfirst := hcolumn "first_name" 3 (by decide) (by decide +kernel)
  have hlast := hcolumn "last_name" 4 (by decide) (by decide +kernel)
  have hroles := hcolumn "roles" 5 (by decide) (by decide +kernel)
  simp [Directory.columns?, userDirectory, hid, hemail, hhash, hfirst, hlast, hroles]

private theorem find_grace (hash : String) :
    userDirectory.find [userTable hash] "Grace@Example.org" = .ok (some (graceEntry hash)) := by
  have hname : Directory.sameName "users" (Directory.understood "users") = true := by
    rw [Directory.understood_eq_self (by decide)]
    decide +kernel
  have htable : userDirectory.table? [userTable hash] = some (userTable hash) := by
    simp [Directory.table?, userDirectory, userTable, hname]
  have hemail : Directory.lowered (.str "grace@example.org") =
      some (Text.lower "Grace@Example.org") := by decide +kernel
  have hfound : (userTable hash).rows.find? (fun row =>
      Directory.lowered (Directory.cell row 1) == some (Text.lower "Grace@Example.org")) =
        (userTable hash).rows.head? :=
    List.find?_cons_of_pos (beq_iff_eq.mpr hemail)
  rw [Directory.find, htable, Option.bind_some, columns?_userTable, Option.map_some]
  simp only [hfound]
  rfl

/-- A user of the directory is authenticated with the password that the row's hash is of. -/
theorem authenticated_grace {hash : String} (hcheck : Password.check "secret" hash = true)
    (hne : hash.isEmpty = false) :
    Authenticated (directoryContext hash) graceForm ⟨some Reconcile.office, 0⟩ graceAssertion := by
  have hemail : submittedEmail graceForm = "Grace@Example.org" := by decide +kernel
  have hpassword : submittedPassword graceForm = "secret" := by decide +kernel
  have hassertion : (graceEntry "").assertion = .ok graceAssertion := by decide +kernel
  refine ⟨⟨rfl, rfl⟩, List.isEmpty_iff.mp (by decide +kernel), by decide, rfl, 0,
    ⟨"sqlite+aiosqlite", none, none, none, none, some "dir.db", []⟩, userDirectory,
    graceEntry hash, ?_, ?_, ?_, hassertion⟩
  · have hsetup : (Directory.ofSettings [] (directoryContext "").settings).1 = .ok (.on 0
        ⟨"sqlite+aiosqlite", none, none, none, none, some "dir.db", []⟩ userDirectory) := by
      decide +kernel
    exact hsetup
  · rw [hemail]
    exact find_grace hash
  · rw [hpassword, ← hcheck]
    exact Password.checkStored_str hne "secret"

/-- The first login of a user of the directory is authenticated, and it writes the new user. -/
theorem store_of_request_grace :
    ∃ hash, Authenticated (directoryContext hash) graceForm ⟨some Reconcile.office, 0⟩
        graceAssertion ∧
      (Service.handle (directoryContext hash) graceForm ⟨some Reconcile.office, 0⟩).2.1.store =
        reconciledStore (directoryContext hash) graceAssertion (some Reconcile.office) ∧
      (Service.handle (directoryContext hash) graceForm ⟨some Reconcile.office, 0⟩).2.1.store ≠
        some Reconcile.office := by
  obtain ⟨hash, hcheck, hne⟩ := Password.exists_fitting "secret" (by decide)
  have hauthenticated := authenticated_grace hcheck hne
  have hstore := (store_of_request (directoryContext hash) graceForm
    ⟨some Reconcile.office, 0⟩).1 graceAssertion hauthenticated
  refine ⟨hash, hauthenticated, hstore, ?_⟩
  rw [hstore]
  have hwritten : (reconciledStore (directoryContext "") graceAssertion (some Reconcile.office)) ≠
      some Reconcile.office := by decide +kernel
  exact hwritten

end FederatedLogin.Service.Login
