import FederatedLogin.Proofs.Directory.Lookup
import FederatedLogin.Proofs.Login.Answer

/-!
# Which login failures get no answer

A login that fails should always be refused in the same way. `Unforeseen` lists the causes of which
this is not true: the directory cannot be set up, its row for the user has role names that nest too
deep or a password hash that is no text, the mapping text goes beyond the reader's limits or maps to
a slug that is no proper text, or no token can be issued.

`login_answer_iff` says that there are no others: a login that is in order and within the limit ends
without an answer exactly for these causes. Every other login gets a token if it finds a user who is
`Entitled` to one, and else the one refusal, which is the same for an unknown, a disabled and an
external account and for a wrong password.
-/

namespace FederatedLogin.Service.Login

open Store (Consistent)

variable {c : Context} {r : Http.Request} {st : State} {email password : String} {v : Verdict}
  {s s' : Store} {ns : List Notice} {u : User}

/-- The external directory that a context sets up. -/
def HasDirectory (c : Context) (address : Address) (d : Directory) : Prop :=
  ∃ pool, (Directory.ofSettings [] c.settings).1 = .ok (.on pool address d)

/-- The directory vouches for an identity, which has or gets an account in the store. -/
structure Known (c : Context) (email password : String) (s : Store) (a : Assertion) : Prop where
  vouched : ∃ address d, HasDirectory c address d ∧
    d.authenticate (c.tables address) email password = .ok (some a)
  account : ∃ u s' ns, Reconcile.Account (c.settings.policy c.mappings) c.newId 0 a s (.ok u) s' ns

/-- A login finds a user who may come in: one whose own password fits, or for whom the directory
vouches, and who is active. -/
inductive Entitled (c : Context) (email password : String) (s : Store) (u : User) : Prop
  | intro {setup : Directory.Setup} {v : Verdict} {s' : Store} {ns : List Notice}
      (good : (Directory.ofSettings [] c.settings).1 = .ok setup)
      (asked : ask c setup email password = .ok v)
      (found : Found c email password s v (.ok (some u)) s' ns) (active : u.isActive = true)

/-- The causes for which a login ends without an answer, with what it ends in. -/
inductive Unforeseen (c : Context) (email password : String) (s : Store) : Unhandled → Prop
  | setup {e : Directory.SetupError} (bad : (Directory.ofSettings [] c.settings).1 = .error e) :
      Unforeseen c email password s (.setup e)
  | deepRoles {address : Address} {d : Directory} (on : HasDirectory c address d)
      (deep : d.find (c.tables address) email = .error .rolesTooDeep) :
      Unforeseen c email password s (.directory .rolesTooDeep)
  | hashNotText {address : Address} {d : Directory} {e : Directory.Entry} {flaw : Password.NotText}
      (on : HasDirectory c address d) (row : d.find (c.tables address) email = .ok (some e))
      (bad : Password.checkStored password e.passwordHash = .error flaw) :
      Unforeseen c email password s (.directory (.hashNotText flaw))
  | mappingBeyond {a : Assertion} {limit : Json.Limit} (known : Known c email password s a)
      (asserted : a.externalRoles ≠ [])
      (text : RoleMapping.loadLenient (c.mappings.text a.provider) = .error limit) :
      Unforeseen c email password s (.reconcile (.mappingBeyond limit))
  | slugNotText {a : Assertion} {slug : Text} (known : Known c email password s a)
      (mapped : Reconcile.Mapped (c.settings.policy c.mappings) a (some slug))
      (surrogate : slug.toString? = none) :
      Unforeseen c email password s (.reconcile (.slugNotText slug))
  | noToken {u : User} {e : Token.IssueError} (entitled : Entitled c email password s u)
      (issued : Token.issue c.settings c.now (.str u.id.text) (.str u.role) (.str u.provider) =
        .error e) :
      Unforeseen c email password s (.issue e)

/-! ### Failures of the directory -/

/-- The directory fails without an answer for roles that nest too deep and for a hash that is no
text. -/
theorem ask_eq_error {pool : Nat} {address : Address} {d : Directory} {e : Unhandled} :
    ask c (.on pool address d) email password = .error e ↔
      (d.find (c.tables address) email = .error .rolesTooDeep ∧ e = .directory .rolesTooDeep) ∨
        ∃ entry flaw, d.find (c.tables address) email = .ok (some entry) ∧
          Password.checkStored password entry.passwordHash = .error flaw ∧
            e = .directory (.hashNotText flaw) := by
  constructor
  · intro h
    rw [ask] at h
    split at h
    · cases h
    · cases h
    rename_i f hfail
    -- An unreachable directory, an unreadable row and an unusable identity are foreseen.
    split at h
    · cases h
    rename_i hunforeseen
    obtain rfl := Except.error.inj h
    rcases Directory.authenticate_eq_error.mp hfail with hfind | ⟨entry, hrow, hrest⟩
    · rcases Directory.error_of_find hfind with rfl | rfl | rfl
      · exact absurd rfl hunforeseen
      · exact absurd rfl hunforeseen
      · exact .inl ⟨hfind, rfl⟩
    · rcases hrest with ⟨flaw, hflaw, rfl⟩ | ⟨-, hassertion⟩
      · exact .inr ⟨entry, flaw, hrow, hflaw, rfl⟩
      · obtain rfl := Directory.error_of_assertion hassertion
        exact absurd rfl hunforeseen
  · rintro (⟨hfind, rfl⟩ | ⟨entry, flaw, hrow, hflaw, rfl⟩)
    · have hfail : d.authenticate (c.tables address) email password = .error .rolesTooDeep :=
        Directory.authenticate_eq_error.mpr (.inl hfind)
      simp [ask, hfail, foreseenDirectory]
    · have hfail := Directory.authenticate_eq_error.mpr
        (.inr ⟨entry, hrow, .inl ⟨flaw, hflaw, rfl⟩⟩)
      simp [ask, hfail, foreseenDirectory]

/-! ### Failures of a reconciliation -/

/-- A reconciliation fails without an answer only after there is an account, for the mapping. -/
theorem unforeseen_of_reconciled {p : Policy} {id : Uuid} {stale : Nat} {a : Assertion}
    {f : Reconcile.Failure} (done : Reconcile.Reconciled p id stale a s (.error f) s' ns)
    (hf : foreseenReconcile f = false) :
    (∃ u s₁ ns₁, Reconcile.Account p id stale a s (.ok u) s₁ ns₁) ∧
      ((∃ limit, f = .mappingBeyond limit ∧ a.externalRoles ≠ [] ∧
          RoleMapping.loadLenient (p.mappings.text a.provider) = .error limit) ∨
        ∃ slug, f = .slugNotText slug ∧ Reconcile.Mapped p a (some slug) ∧
          slug.toString? = none) := by
  cases done with
  | noAccount account => cases account <;> exact absurd hf nofun
  | account account roleStep =>
    refine ⟨⟨_, _, _, account⟩, ?_⟩
    cases roleStep with
    | beyond asserted text => exact .inl ⟨_, rfl, asserted, text⟩
    | notText mapped surrogate => exact .inr ⟨_, rfl, mapped, surrogate⟩

/-! ### Failures of a login -/

/-- A login with a known identity ends without an answer if its role can never be applied for an
unforeseen cause. -/
theorem answered_of_known (order : complaints r = []) (within : st.logins < limit) {a : Assertion}
    (known : Known c (submittedEmail r) (submittedPassword r) s a) {f : Reconcile.Failure}
    (step : ∀ s₁ u, Reconcile.RoleStep (c.settings.policy c.mappings) a s₁ u (.error f) s₁ [])
    (unforeseen : foreseenReconcile f = false) :
    ∃ s' ns, Answered c r st s (.error (.reconcile f)) s' ns := by
  obtain ⟨⟨address, d, ⟨pool, good⟩, hauth⟩, u, s₁, ns₁, account⟩ := known
  have asked := ask_eq_vouched.mpr ⟨pool, address, d, rfl, hauth⟩
  have done := Reconcile.Reconciled.account account (step s₁ u)
  exact ⟨_, _, .failed good order within asked (.failed (.failed done unforeseen))⟩

/-- A login that is in order ends without an answer exactly for an unforeseen cause. -/
theorem answered_error_iff (order : complaints r = []) (within : st.logins < limit)
    {e : Unhandled} :
    (∃ s' ns, Answered c r st s (.error e) s' ns) ↔
      Unforeseen c (submittedEmail r) (submittedPassword r) s e := by
  constructor
  · rintro ⟨s', ns, hanswered⟩
    -- Of the ways in which a login is answered, three end in an error.
    cases hanswered with
    | noSetup bad => exact .setup bad
    | @unasked setup _ good _ _ unforeseen =>
      cases setup with
      | off | noAddress => exact absurd unforeseen nofun
      | on pool address d =>
        rcases ask_eq_error.mp unforeseen with ⟨deep, rfl⟩ | ⟨entry, flaw, row, bad, rfl⟩
        · exact .deepRoles ⟨pool, good⟩ deep
        · exact .hashNotText ⟨pool, good⟩ row bad
    | failed good _ _ asked tried =>
      cases tried with
      | noToken found active issued => exact .noToken ⟨good, asked, found, active⟩ issued
      | failed found =>
        cases found with
        | failed done unforeseen =>
          obtain ⟨pool, address, d, rfl, hauth⟩ := ask_eq_vouched.mp asked
          obtain ⟨account, hcause⟩ := unforeseen_of_reconciled done unforeseen
          have known : Known c (submittedEmail r) (submittedPassword r) s _ :=
            ⟨⟨address, d, ⟨pool, good⟩, hauth⟩, account⟩
          rcases hcause with ⟨limit, rfl, asserted, text⟩ | ⟨slug, rfl, mapped, surrogate⟩
          · exact .mappingBeyond known asserted text
          · exact .slugNotText known mapped surrogate
  · intro h
    cases h with
    | setup bad => exact ⟨_, _, .noSetup bad⟩
    | deepRoles on deep =>
      obtain ⟨pool, good⟩ := on
      exact ⟨_, _, .unasked good order within (ask_eq_error.mpr (.inl ⟨deep, rfl⟩))⟩
    | hashNotText on row bad =>
      obtain ⟨pool, good⟩ := on
      exact ⟨_, _, .unasked good order within (ask_eq_error.mpr (.inr ⟨_, _, row, bad, rfl⟩))⟩
    | mappingBeyond known asserted text =>
      exact answered_of_known order within known (fun _ _ => .beyond asserted text) rfl
    | slugNotText known mapped surrogate =>
      exact answered_of_known order within known (fun _ _ => .notText mapped surrogate) rfl
    | noToken entitled issued =>
      obtain ⟨good, asked, found, active⟩ := entitled
      exact ⟨_, _, .failed good order within asked (.noToken found active issued)⟩

/-- A user who is entitled is the one that any attempt finds. -/
theorem Entitled.eq_of_found (h : s.Consistent) (entitled : Entitled c email password s u)
    {setup : Directory.Setup} {found? : Option User}
    (good : (Directory.ofSettings [] c.settings).1 = .ok setup)
    (asked : ask c setup email password = .ok v)
    (found : Found c email password s v (.ok found?) s' ns) : found? = some u := by
  obtain ⟨good', asked', found', -⟩ := entitled
  obtain rfl := Except.ok.inj (good.symm.trans good')
  obtain rfl := Except.ok.inj (asked.symm.trans asked')
  exact Except.ok.inj (found.result_unique h found')

/-- What is answered to a login that is in order is the one refusal, if no user is entitled, or
gives a token to the user who is. -/
theorem refused_or_granted (h : s.Consistent) (order : complaints r = [])
    (within : st.logins < limit) {a : Http.Response} (ha : Answered c r st s (.ok a) s' ns) :
    (a = refused ∧ ∀ u, ¬Entitled c (submittedEmail r) (submittedPassword r) s u) ∨
      ∃ g : Grant, a = granted s' g ∧
        Entitled c (submittedEmail r) (submittedPassword r) s g.user := by
  cases ha with
  | badForm _ disorder => exact absurd order disorder
  | tooMany _ _ beyond => exact absurd within (Nat.not_lt_of_le beyond)
  | answered good _ _ asked tried =>
    cases tried with
    | nobody found =>
      refine .inl ⟨rfl, fun u entitled => ?_⟩
      exact absurd (entitled.eq_of_found h good asked found) nofun
    | @disabled w _ _ found inactive =>
      refine .inl ⟨rfl, fun u entitled => ?_⟩
      obtain rfl : w = u := Option.some.inj (entitled.eq_of_found h good asked found)
      obtain ⟨-, -, -, active⟩ := entitled
      exact Bool.false_ne_true (inactive.symm.trans active)
    | granted found active _ => exact .inr ⟨_, rfl, good, asked, found, active⟩

/-- In every store that meets its constraints, a login that is in order and within the limit ends
without an answer exactly for the unforeseen causes. Otherwise it is answered with the one refusal
if no user is entitled, whether there is none, a disabled or an external one or the password does
not fit, and with a token for the user who is. -/
theorem login_answer_iff (h : s.Consistent) (hs : st.store = some s) (c : Context)
    (hr : IsLogin r) (order : complaints r = []) (within : st.logins < limit) :
    (∀ e, (Service.handle c r st).1 = .error e ↔
      Unforeseen c (submittedEmail r) (submittedPassword r) s e) ∧
    ∀ a, (Service.handle c r st).1 = .ok a →
      (a = Http.CrossOrigin.mark c.settings.corsOrigins r refused ∧
        ∀ u, ¬Entitled c (submittedEmail r) (submittedPassword r) s u) ∨
      ∃ (s' : Store) (g : Grant),
        a = Http.CrossOrigin.mark c.settings.corsOrigins r (granted s' g) ∧
          Entitled c (submittedEmail r) (submittedPassword r) s g.user := by
  obtain ⟨result, s', ns, hanswered⟩ := exists_answered c r st s
  have hresult := (hanswered.answer_eq h hs).1
  rw [handle_of_isLogin hr]
  simp only [hresult]
  constructor
  · intro e
    rw [← answered_error_iff order within]
    constructor
    · intro herror
      rcases result with e' | a
      · obtain rfl := Except.error.inj herror
        exact ⟨s', ns, hanswered⟩
      · exact absurd herror nofun
    · rintro ⟨s'', ns', hother⟩
      rw [← hresult, (hother.answer_eq h hs).1]
      rfl
  · intro a ha
    rcases result with e | b
    · exact absurd ha nofun
    obtain rfl := Except.ok.inj ha
    rcases refused_or_granted h order within hanswered with ⟨rfl, hnone⟩ | ⟨g, rfl, entitled⟩
    · exact .inl ⟨rfl, hnone⟩
    · exact .inr ⟨s', g, rfl, entitled⟩

/-! ### Logins into the empty store -/

/-- A login form that is in order. -/
def plainForm : Http.Request where
  method := "POST"
  path := "/api/v1/auth/login"
  form := [("username", "ada@example.org"), ("password", "secret")]

/-- The default settings. -/
def plainContext : Context := ⟨{}, {}, 0, ⟨1⟩, []⟩

/-- Settings with a directory whose table has a blank in its name. -/
def misnamedContext : Context :=
  { plainContext with
    settings :=
      { postgresEnabled := true
        postgresDsn := some "sqlite+aiosqlite:///dir.db"
        postgresTable := "my users" } }

/-- A login gets no answer at all if the directory's table has a bad name. -/
theorem no_answer_of_bad_name :
    IsLogin plainForm ∧ complaints plainForm = [] ∧
      (Service.handle misnamedContext plainForm ⟨some {}, 0⟩).1 =
        .error (.setup (.name ⟨"table", "my users"⟩)) := by
  have hsetup : (Directory.ofSettings [] misnamedContext.settings).1 =
      .error (.name ⟨"table", "my users"⟩) := by
    decide +kernel
  have hlogin : IsLogin plainForm := ⟨rfl, rfl⟩
  refine ⟨hlogin, List.isEmpty_iff.mp (by decide +kernel), ?_⟩
  rw [handle_of_isLogin hlogin, answer, hsetup]
  rfl

/-- A login under the default settings ends in one of the ways described. -/
theorem login_answer_iff_plain :
    IsLogin plainForm ∧ complaints plainForm = [] ∧ 0 < limit ∧ Consistent {} ∧
      (∀ e, (Service.handle plainContext plainForm ⟨some {}, 0⟩).1 = .error e ↔
        Unforeseen plainContext (submittedEmail plainForm) (submittedPassword plainForm) {} e) ∧
      ∀ a, (Service.handle plainContext plainForm ⟨some {}, 0⟩).1 = .ok a →
        (a = Http.CrossOrigin.mark plainContext.settings.corsOrigins plainForm refused ∧ ∀ u,
          ¬Entitled plainContext (submittedEmail plainForm) (submittedPassword plainForm) {} u) ∨
        ∃ (s' : Store) (g : Grant),
          a = Http.CrossOrigin.mark plainContext.settings.corsOrigins plainForm (granted s' g) ∧
            Entitled plainContext (submittedEmail plainForm) (submittedPassword plainForm) {}
              g.user := by
  have order : complaints plainForm = [] := List.isEmpty_iff.mp (by decide +kernel)
  have within : (⟨some {}, 0⟩ : State).logins < limit := by decide
  have empty : Consistent {} := Store.canonical_empty.toConsistent
  exact ⟨⟨rfl, rfl⟩, order, within, empty,
    login_answer_iff empty rfl plainContext ⟨rfl, rfl⟩ order within⟩

end FederatedLogin.Service.Login
