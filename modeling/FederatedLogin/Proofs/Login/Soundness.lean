import FederatedLogin.Proofs.Directory.Lookup
import FederatedLogin.Proofs.Password.WellFormed
import FederatedLogin.Proofs.Run
import FederatedLogin.Proofs.Token.Issued

/-!
# Whom a login lets in

A login that is answered with a token lets in the one user whose email was submitted (`LetsIn`), and
only for a password that fits: the user's own, or the one in the directory's row for the email
(`Vouched`). On the way to the user the email is compared three times, and every comparison comes to
its lower-case form.
-/

namespace FederatedLogin.Service.Login

open Store (Canonical answers)

variable {c : Context} {r : Http.Request} {email password : String} {v : Verdict} {s s' : Store}
  {ns : List Notice} {u : User}

/-- The password was checked for a user: against the user's own hash, or against the hash in the row
that the directory has for the email. -/
inductive Vouched (c : Context) (email password : String) (u : User) : Prop
  | own {hash : String} (stored : u.hashedPassword = some hash)
      (fits : Password.check password hash = true)
  | directory {pool : Nat} {address : Address} {d : Directory} {e : Directory.Entry}
      (enabled : c.settings.postgresEnabled = true)
      (setup : (Directory.ofSettings [] c.settings).1 = .ok (.on pool address d))
      (row : d.find (c.tables address) email = .ok (some e))
      (fits : Password.checkStored password e.passwordHash = .ok true)

/-- The claims that a token is made of. -/
def Carries (token : String) (claims : Datum) : Prop :=
  ∃ algorithm key header, token = Token.make algorithm key header claims

/-- An answer lets in a user of a store, and nobody else. -/
structure LetsIn (c : Context) (r : Http.Request) (a : Http.Response) (s : Store) (u : User) :
    Prop where
  stored : u ∈ s.users
  active : u.isActive = true
  email : u.email = Text.lower (submittedEmail r)
  /-- No other user has the email in any case of letters. -/
  only : ∀ w ∈ s.users, Text.lower w.email = Text.lower (submittedEmail r) → w = u
  /-- The answer shows the user, beside a token whose subject is the user. -/
  body : ∃ token claims, a.body = .json (.object [("access_token", .str token),
      ("token_type", .str "bearer"), ("user", profile s u)]) ∧
    Carries token claims ∧ claims.field? "sub" = some (.str u.id.text)
  vouched : Vouched c (submittedEmail r) (submittedPassword r) u

/-! ### The token -/

theorem exists_issue {settings : Settings} {now expires : Int} {algorithm : Token.Algorithm}
    {key : List UInt8} (hexpiry : Token.expiry now settings.jwtExpireMinutes = .ok expires)
    (hsigner : Token.signer settings.jwtAlgorithm = .ok algorithm)
    (hkey : algorithm.key settings.jwtSecretKey = .ok key) (subject role provider : Datum) :
    ∃ token, Token.issue settings now subject role provider = .ok token :=
  Token.exists_issue_iff.mpr ⟨⟨_, hexpiry⟩, _, _, hsigner, hkey⟩

/-- The subject of an issued token is the one that it was issued for. -/
theorem carries_of_issue {settings : Settings} {now : Int} {subject role provider : Datum}
    {token : String} (h : Token.issue settings now subject role provider = .ok token) :
    ∃ claims, Carries token claims ∧ claims.field? "sub" = some subject := by
  obtain ⟨expires, -, h⟩ := bind_eq_ok.mp h
  obtain ⟨algorithm, -, h⟩ := bind_eq_ok.mp h
  obtain ⟨key, -, h⟩ := bind_eq_ok.mp h
  refine ⟨Token.claimsOf now expires subject role provider, ?_, ?_⟩
  · exact ⟨algorithm, key, _, (Except.ok.inj h).symm⟩
  · simp [Token.claimsOf, Datum.object, Datum.field?, Datum.lookup]

/-! ### The user -/

theorem own?_eq_some (h : own? email password s = some u) :
    u ∈ s.users ∧ answers email u = true ∧
      ∃ hash, u.hashedPassword = some hash ∧ Password.check password hash = true := by
  obtain ⟨hfind, hfits⟩ := Option.filter_eq_some_iff.mp h
  refine ⟨List.mem_of_find?_eq_some hfind, List.find?_some hfind, ?_⟩
  rw [fits] at hfits
  obtain ⟨hash, hhash, hcheck⟩ := (Option.any_eq_true _ _).mp hfits
  exact ⟨hash, hhash, (Bool.and_eq_true_iff.mp hcheck).2⟩

/-- Only a directory that is switched on is set up. -/
theorem enabled_of_setup {pool : Nat} {address : Address} {d : Directory}
    (h : (Directory.ofSettings [] c.settings).1 = .ok (.on pool address d)) :
    c.settings.postgresEnabled = true := by
  rw [Directory.ofSettings] at h
  split at h
  · assumption
  · exact absurd h nofun

/-- The user that a login finds is stored under the submitted email, and the password was checked
for it. -/
theorem found_sound (h : s.Canonical) {setup : Directory.Setup}
    (good : (Directory.ofSettings [] c.settings).1 = .ok setup)
    (asked : ask c setup (submittedEmail r) password = .ok v)
    (found : Found c (submittedEmail r) password s v (.ok (some u)) s' ns) :
    u ∈ s'.users ∧ u.email = Text.lower (submittedEmail r) ∧
      Vouched c (submittedEmail r) password u := by
  cases found with
  | own fitting =>
    obtain ⟨hu, hanswers, hash, hhash, hcheck⟩ := own?_eq_some fitting
    exact ⟨hu, (h.answers_iff hu).mp hanswers, .own hhash hcheck⟩
  | vouched done =>
    obtain ⟨pool, address, d, rfl, hauth⟩ := ask_eq_vouched.mp asked
    obtain ⟨e, hfind, hfits, -⟩ := Directory.authenticate_eq_some.mp hauth
    obtain ⟨hu, hkey⟩ := done.stored h
    rw [Directory.normalizedEmail_of_authenticate hauth] at hkey
    exact ⟨hu, hkey, .directory (enabled_of_setup good) good hfind hfits⟩

/-! ### The answer -/

/-- After every run, a login that is answered with status 200 lets in a stored user. -/
theorem login_sound (events : List Run.Event) (c : Context) {r : Http.Request} (hr : IsLogin r)
    {a : Http.Response} (answered : (Service.handle c r (Run.run events)).1 = .ok a)
    (ok : a.status = 200) :
    ∃ s u, (Service.handle c r (Run.run events)).2.1.store = some s ∧ LetsIn c r a s u := by
  obtain ⟨s, hs, h⟩ := Run.run_canonical events
  obtain ⟨result, s', ns, hanswered⟩ := exists_answered c r (Run.run events) s
  obtain ⟨hresult, hstore, -⟩ := hanswered.answer_eq h.toConsistent hs
  have hcanonical := h.writes (hanswered.writes h.toConsistent)
  rw [handle_of_isLogin hr] at answered ⊢
  obtain ⟨b, hb, rfl⟩ := map_eq_ok.mp answered
  rw [hb] at hresult
  subst hresult
  -- The complaints, the limit and the refusal are answered with other status codes.
  cases hanswered with
  | badForm | tooMany => exact absurd ok nofun
  | answered good _ _ asked tried =>
    cases tried with
    | nobody | disabled => exact absurd ok nofun
    | @granted u _ ns token found active issued =>
      obtain ⟨hu, hemail, hvouched⟩ := found_sound h good asked found
      obtain ⟨claims, hcarries, hsub⟩ := carries_of_issue issued
      refine ⟨s', u, hstore, hu, active, hemail, ?_, ⟨token, claims, rfl, hcarries, hsub⟩, hvouched⟩
      intro w hw hsame
      refine hcanonical.eq_of_clashes hw hu (Store.clashes_iff.mpr (.inr ?_))
      rw [← hcanonical.emails w hw, hsame, hemail]

/-! ### A login that is let in -/

/-- A login form, with a blank too many. -/
def adaForm : Http.Request where
  method := "POST"
  path := "/api/v1/auth/login"
  form := [("username", " Ada@Example.org"), ("password", "secret")]

/-- The default settings. -/
def adaContext : Context := ⟨{}, {}, 0, ⟨2⟩, []⟩

/-- A user with a local password. -/
def ada (hash : String) : User where
  id := ⟨1⟩
  email := "ada@example.org"
  role := "member"
  hashedPassword := some hash

/-- A run that creates the user. -/
def adaRun (hash : String) : List Run.Event :=
  [.ensureRoles ["member"], .create
    { id := ⟨1⟩, email := "ADA@example.org", role := some "member", hashedPassword := some hash }]

private theorem store_adaRun (hash : String) :
    (Run.run (adaRun hash)).store = some ⟨[⟨"member", "Member"⟩], [ada hash]⟩ := by
  have hroles : (Store.ensureRoles {} ["member"]).1 = ⟨[⟨"member", "Member"⟩], []⟩ := by
    decide +kernel
  have hlower : Text.lower "ADA@example.org" = "ada@example.org" := by decide +kernel
  simp [Run.run, adaRun, Run.step, Run.after, Run.fresh, Action.start_eq, Action.exec_ensureRoles,
    hroles, Reconcile.exec_create, hlower, Store.insertDraft, Draft.user?, Store.insert,
    Store.holdsRole, ada, Except.map]

private theorem own?_ada {hash : String} (hcheck : Password.check "secret" hash = true)
    (hne : hash.isEmpty = false) :
    own? "Ada@Example.org" "secret" ⟨[⟨"member", "Member"⟩], [ada hash]⟩ = some (ada hash) := by
  have hanswers : Text.asciiLower "ada@example.org" = Text.lower "Ada@Example.org" := by
    decide +kernel
  simp [own?, fits, Store.answers, ada, hanswers, hcheck, hne]

private theorem issue_ada (hash : String) :
    ∃ token, Token.issue adaContext.settings adaContext.now (.str (ada hash).id.text)
      (.str (ada hash).role) (.str (ada hash).provider) = .ok token := by
  exact exists_issue (rfl : Token.expiry 0 60 = .ok 3600) rfl Token.key_default _ _ _

private theorem answered_ada {hash : String} (hcheck : Password.check "secret" hash = true)
    (hne : hash.isEmpty = false) :
    ∃ a, (Service.handle adaContext adaForm (Run.run (adaRun hash))).1 = .ok a ∧
      a.status = 200 := by
  have hs := store_adaRun hash
  obtain ⟨s, hs', h⟩ := Run.run_canonical (adaRun hash)
  obtain rfl := Option.some.inj (hs.symm.trans hs')
  obtain ⟨token, htoken⟩ := issue_ada hash
  have hactive : (ada hash).isActive = true := rfl
  have hexec : (attempt adaContext "Ada@Example.org" "secret" .silent).exec
      ⟨⟨[⟨"member", "Member"⟩], [ada hash]⟩, []⟩ =
        (.ok (some ⟨ada hash, token⟩), ⟨⟨[⟨"member", "Member"⟩], [ada hash]⟩, []⟩) := by
    simp only [attempt, user, letIn, Action.exec_bind, exec_localUser h.toConsistent,
      own?_ada hcheck hne, hactive, if_true, htoken, mapError_ok, Action.exec_of,
      Action.exec_pure]
  have horder : complaints adaForm = [] := List.isEmpty_iff.mp (by decide +kernel)
  have hemail : submittedEmail adaForm = "Ada@Example.org" := by decide +kernel
  have hpassword : submittedPassword adaForm = "secret" := by decide +kernel
  have hsetup : (Directory.ofSettings [] adaContext.settings).1 = .ok .off := rfl
  have hlogins : (Run.run (adaRun hash)).logins < limit := Nat.zero_lt_succ 9
  rw [handle_of_isLogin ⟨rfl, rfl⟩, answer_of_inOrder hsetup horder hlogins, hemail, hpassword,
    handle_eq (v := .silent) ⟨_, (Run.run (adaRun hash)).logins + 1⟩ hs rfl hexec]
  exact ⟨_, rfl, rfl⟩

/-- A user whose password was hashed logs in with it. -/
theorem exists_answered_ada :
    ∃ hash a, (Service.handle adaContext adaForm (Run.run (adaRun hash))).1 = .ok a ∧
      a.status = 200 := by
  obtain ⟨hash, hcheck, hne⟩ := Password.exists_fitting "secret" (by decide)
  exact ⟨hash, answered_ada hcheck hne⟩

/-- A user whose password was hashed is let in with it. -/
theorem login_sound_ada :
    ∃ hash a, (Service.handle adaContext adaForm (Run.run (adaRun hash))).1 = .ok a ∧
      a.status = 200 ∧ IsLogin adaForm ∧
      ∃ s u, (Service.handle adaContext adaForm (Run.run (adaRun hash))).2.1.store = some s ∧
        LetsIn adaContext adaForm a s u := by
  obtain ⟨hash, a, ha, hok⟩ := exists_answered_ada
  exact ⟨hash, a, ha, hok, ⟨rfl, rfl⟩, login_sound _ adaContext ⟨rfl, rfl⟩ ha hok⟩

end FederatedLogin.Service.Login
