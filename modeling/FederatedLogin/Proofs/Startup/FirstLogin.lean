import FederatedLogin.Proofs.Login.Soundness
import FederatedLogin.Proofs.Password.WellFormed
import FederatedLogin.Proofs.Startup.Restart
import FederatedLogin.Proofs.Text.Spacing

/-!
# The first login

A start on a store without users creates the administrator of the settings, whose email is the
configured one in lower case, with whatever spacing stands around it. A login strips the spacing
from the email that is submitted. So the administrator, who submits the email and the password of
the settings, is found exactly if the configured email has no spacing around it (`answers_iff`).

`FirstLogin` lists how this login is answered: the administrator is let in, is refused for the
spacing, or no token can be issued with the settings. `first_login_outcome` says that the start
succeeds and that there are no other answers.
-/

namespace FederatedLogin.Startup

open Service (State Unhandled)
open Service.Login (Answered IsLogin LetsIn complaints fits granted limit own? refused
  submittedEmail submittedPassword)
open Text (strip)
open Token (Issuable)

variable {c : Service.Context} {r : Http.Request} {id : Uuid} {salt hash email password : String}
  {role : Role} {s s' : Store} {u : User}

/-! ### Submitting the configured email and password -/

/-- A login form has an email and a password, and nothing is wrong with it. -/
structure Submits (r : Http.Request) (email password : String) : Prop where
  login : IsLogin r
  username : r.field? "username" = some email
  password : r.field? "password" = some password
  grant : r.field? "grant_type" = none ∨ r.field? "grant_type" = some "password"

theorem Submits.complaints_eq_nil (h : Submits r email password) : complaints r = [] := by
  rcases h.grant with hgrant | hgrant <;> simp [complaints, h.username, h.password, hgrant]

theorem Submits.submittedEmail_eq (h : Submits r email password) :
    submittedEmail r = strip email := by
  rw [submittedEmail, h.username, Option.getD_some]

theorem Submits.submittedPassword_eq (h : Submits r email password) :
    submittedPassword r = password := by
  rw [submittedPassword, h.password, Option.getD_some]

/-- A request with two fields submits them, if neither is empty. -/
theorem submits_form (hemail : email ≠ "") (hpassword : password ≠ "") :
    Submits ⟨"POST", "/api/v1/auth/login", "", [],
      [("username", email), ("password", password)]⟩ email password := by
  refine ⟨⟨rfl, rfl⟩, ?_, ?_, .inl ?_⟩
  · simp [Http.Request.field?, hemail]
  · simp [Http.Request.field?, hpassword]
  · simp [Http.Request.field?]

/-! ### Finding the administrator -/

/-- The administrator is found by the configured email exactly if stripping leaves it as it is. -/
theorem answers_iff {settings : Settings} :
    Store.answers (strip settings.adminEmail) (firstUser settings id role hash) = true ↔
      strip settings.adminEmail = settings.adminEmail := by
  rw [Store.answers_iff, firstUser, Text.asciiLower_lower, eq_comm]
  exact Text.lower_strip_eq_lower_iff

/-- The only user logs in with the configured email and password exactly if there is no spacing
around the email. -/
theorem Submits.own?_eq {settings : Settings}
    (submits : Submits r settings.adminEmail settings.adminPassword)
    (users : s.users = [firstUser settings id role hash])
    (hashed : Password.hash salt settings.adminPassword = .ok hash) :
    own? (submittedEmail r) (submittedPassword r) s =
      if strip settings.adminEmail = settings.adminEmail then
        some (firstUser settings id role hash) else none := by
  have hfits : fits settings.adminPassword (firstUser settings id role hash) = true := by
    simp [fits, firstUser, Password.isEmpty_of_hash hashed, Password.check_of_hash hashed]
  rw [own?, users, submits.submittedEmail_eq, submits.submittedPassword_eq]
  split
  · rename_i bare
    rw [List.find?_cons_of_pos (answers_iff.mpr bare), Option.filter_some, if_pos hfits]
  · rename_i padded
    rw [List.find?_cons_of_neg (mt answers_iff.mp padded)]
    rfl

/-! ### The answer -/

/-- How the administrator's login is answered. -/
inductive FirstLogin (c : Service.Context) (r : Http.Request) (s : Store) (u : User) :
    Except Unhandled Http.Response → Prop
  | letIn {a : Http.Response} (bare : strip c.settings.adminEmail = c.settings.adminEmail)
      (issuable : Issuable c.settings c.now) (ok : a.status = 200) (lets : LetsIn c r a s u) :
      FirstLogin c r s u (.ok a)
  | refused (padded : strip c.settings.adminEmail ≠ c.settings.adminEmail) :
      FirstLogin c r s u (.ok (Http.CrossOrigin.mark c.settings.corsOrigins r refused))
  | noToken {e : Token.IssueError} (bare : strip c.settings.adminEmail = c.settings.adminEmail)
      (issued : Token.issue c.settings c.now (.str u.id.text) (.str u.role) (.str u.provider) =
        .error e) :
      FirstLogin c r s u (.error (.issue e))

/-- The login is answered with status 200 exactly if the configured email has no spacing around it
and tokens can be issued. -/
theorem FirstLogin.ok_iff {result : Except Unhandled Http.Response}
    (h : FirstLogin c r s u result) : (∃ a, result = .ok a ∧ a.status = 200) ↔
      strip c.settings.adminEmail = c.settings.adminEmail ∧ Issuable c.settings c.now := by
  cases h with
  | letIn bare issuable ok _ => exact iff_of_true ⟨_, rfl, ok⟩ ⟨bare, issuable⟩
  | refused padded =>
    refine iff_of_false ?_ fun hbare => padded hbare.1
    rintro ⟨a, ha, ok⟩
    obtain rfl := Except.ok.inj ha
    exact absurd ok nofun
  | noToken bare issued =>
    refine iff_of_false (fun ⟨a, ha, _⟩ => absurd ha nofun) fun hissuable => ?_
    obtain ⟨token, htoken⟩ := Token.exists_issue_iff.mpr hissuable.2
    exact absurd (htoken.symm.trans issued) nofun

/-- With spacing around the configured email the login is refused. -/
theorem FirstLogin.eq_refused {result : Except Unhandled Http.Response}
    (h : FirstLogin c r s u result) (padded : strip c.settings.adminEmail ≠ c.settings.adminEmail) :
    result = .ok (Http.CrossOrigin.mark c.settings.corsOrigins r Service.Login.refused) := by
  cases h with
  | refused => rfl
  | letIn bare | noToken bare => exact absurd bare padded

/-- The token that the administrator is answered with lets the administrator in. -/
theorem letsIn_firstUser {settings : Settings} {token : String}
    (submits : Submits r c.settings.adminEmail c.settings.adminPassword)
    (users : s.users = [firstUser c.settings id role hash])
    (hashed : Password.hash salt c.settings.adminPassword = .ok hash)
    (bare : strip c.settings.adminEmail = c.settings.adminEmail)
    (issued : Token.issue settings c.now (.str (firstUser c.settings id role hash).id.text)
      (.str (firstUser c.settings id role hash).role)
      (.str (firstUser c.settings id role hash).provider) = .ok token) :
    LetsIn c r (Http.CrossOrigin.mark c.settings.corsOrigins r
      (granted s ⟨firstUser c.settings id role hash, token⟩)) s
      (firstUser c.settings id role hash) := by
  have hemail : submittedEmail r = c.settings.adminEmail := submits.submittedEmail_eq.trans bare
  have hcheck : Password.check (submittedPassword r) hash = true := by
    rw [submits.submittedPassword_eq]
    exact Password.check_of_hash hashed
  obtain ⟨claims, hcarries, hsubject⟩ := Service.Login.carries_of_issue issued
  refine ⟨?_, rfl, ?_, ?_, ⟨token, claims, rfl, hcarries, hsubject⟩, .own rfl hcheck⟩
  · rw [users]
    exact List.mem_singleton_self _
  · rw [hemail]
    rfl
  · intro w hw _
    rw [users] at hw
    exact List.mem_singleton.mp hw

/-- In a store with the first user alone, the login is answered as `FirstLogin` says, and nothing is
stored. -/
theorem firstLogin_of_users {st : State} (h : s.Consistent)
    (off : c.settings.postgresEnabled = false)
    (submits : Submits r c.settings.adminEmail c.settings.adminPassword)
    (users : s.users = [firstUser c.settings id role hash])
    (hashed : Password.hash salt c.settings.adminPassword = .ok hash)
    (hs : st.store = some s) (within : st.logins < limit) :
    FirstLogin c r s (firstUser c.settings id role hash) (Service.handle c r st).1 ∧
      (Service.handle c r st).2.1.store = some s := by
  have good : (Directory.ofSettings [] c.settings).1 = .ok .off := by
    simp [Directory.ofSettings, off]
  have order := submits.complaints_eq_nil
  have hown := submits.own?_eq users hashed
  by_cases bare : strip c.settings.adminEmail = c.settings.adminEmail
  · rw [if_pos bare] at hown
    rcases issued : Token.issue c.settings c.now (.str (firstUser c.settings id role hash).id.text)
      (.str (firstUser c.settings id role hash).role)
      (.str (firstUser c.settings id role hash).provider) with e | token
    · have hanswered : Answered c r st s (.error (.issue e)) s _ :=
        .failed good order within rfl (.noToken (.own hown) rfl issued)
      obtain ⟨hresult, hstore⟩ := hanswered.handle_eq h hs submits.login
      rw [hresult]
      exact ⟨.noToken bare issued, hstore⟩
    · have hanswered : Answered c r st s (.ok (granted s ⟨_, token⟩)) s _ :=
        .answered good order within rfl (.granted (.own hown) rfl issued)
      obtain ⟨hresult, hstore⟩ := hanswered.handle_eq h hs submits.login
      rw [hresult]
      exact ⟨.letIn bare (Token.exists_issue_iff.mp ⟨token, issued⟩) rfl
        (letsIn_firstUser submits users hashed bare issued), hstore⟩
  · rw [if_neg bare] at hown
    have hanswered : Answered c r st s (.ok refused) s _ :=
      .answered good order within rfl (.nobody (.noOwn hown))
    obtain ⟨hresult, hstore⟩ := hanswered.handle_eq h hs submits.login
    rw [hresult]
    exact ⟨.refused bare, hstore⟩

/-! ### A start and a login -/

/-- A start on a store without users leaves the first user alone in it, if the settings ask for an
administrator's role and their password can be hashed. -/
theorem exists_run {settings : Settings} (h : s.Consistent) (empty : s.users = [])
    (seeded : adminSlug ∈ settings.seedRoles)
    (hashed : Password.hash salt settings.adminPassword = .ok hash) (id : Uuid) :
    ∃ role s' ns, Startup.run settings id salt (some s) = (.ok (), some s', ns) ∧
      s'.Consistent ∧ s'.users = [firstUser settings id role hash] ∧
      FirstAdmin settings (firstUser settings id role hash) := by
  have users : (s.ensureRoles settings.wantedRoles).1.users = [] := by
    rw [Store.ensureRoles_users, empty]
  have stored : adminSlug ∈ (s.ensureRoles settings.wantedRoles).1.slugs :=
    (seeded_ensureRoles settings s).stored adminSlug (.inl seeded)
  have present : (s.ensureRoles settings.wantedRoles).1.roles.find? (·.slug == adminSlug) ≠ none :=
    mt find?_admin_eq_none_iff.mp (not_not.mpr stored)
  obtain ⟨role, found⟩ := Option.ne_none_iff_exists'.mp present
  have created : Bootstrapped settings id salt _ (.ok ()) _ _ := .created users found hashed
  obtain ⟨ns, started⟩ := created.run h
  have consistent := (h.writes (Store.writes_ensureRoles s settings.wantedRoles)).writes
    created.writes
  exact ⟨role, _, ns, started, consistent, rfl, firstAdmin_firstUser found hashed⟩

/-- A start on a store without users, with settings that ask for an administrator's role and whose
password can be hashed, leaves one user, the administrator of the settings. The login with the email
and password of the settings, while the directory is switched off and fewer logins than the limit
were counted, is answered as `FirstLogin` says and stores nothing. It is answered with status 200
exactly if the configured email has no spacing around it and tokens can be issued. -/
theorem first_login_outcome (h : s.Consistent) (empty : s.users = [])
    (off : c.settings.postgresEnabled = false) (seeded : adminSlug ∈ c.settings.seedRoles)
    (hashed : Password.hash salt c.settings.adminPassword = .ok hash)
    (submits : Submits r c.settings.adminEmail c.settings.adminPassword) (id : Uuid) :
    ∃ s' u ns, Startup.run c.settings id salt (some s) = (.ok (), some s', ns) ∧
      s'.users = [u] ∧ FirstAdmin c.settings u ∧
      ∀ st : State, st.store = some s' → st.logins < limit →
        FirstLogin c r s' u (Service.handle c r st).1 ∧
        (Service.handle c r st).2.1.store = some s' ∧
        ((∃ a, (Service.handle c r st).1 = .ok a ∧ a.status = 200) ↔
          strip c.settings.adminEmail = c.settings.adminEmail ∧ Issuable c.settings c.now) := by
  obtain ⟨role, s', ns, started, consistent, users, first⟩ := exists_run h empty seeded hashed id
  refine ⟨s', _, ns, started, users, first, fun st hs within => ?_⟩
  obtain ⟨answered, kept⟩ := firstLogin_of_users consistent off submits users hashed hs within
  exact ⟨answered, kept, answered.ok_iff⟩

/-! ### Default settings -/

/-- Default settings but for the administrator's email. -/
def emailContext (email : String) : Service.Context := ⟨{ adminEmail := email }, {}, 0, ⟨2⟩, []⟩

/-- The administrator's login form. -/
def adminForm (email : String) : Http.Request :=
  ⟨"POST", "/api/v1/auth/login", "", [],
    [("username", email), ("password", ({} : Settings).adminPassword)]⟩

theorem exists_hash_default :
    ∃ hash, Password.hash Password.lightSalt ({} : Settings).adminPassword = .ok hash :=
  (Password.exists_hash_iff_of_validSalt Password.validSalt_lightSalt _).mpr (by decide)

/-- After a first start with the default settings the administrator logs in. -/
theorem first_login_outcome_default :
    ∃ hash s' u ns a, Store.Consistent {} ∧
      Password.hash Password.lightSalt ({} : Settings).adminPassword = .ok hash ∧
      Submits (adminForm "admin@localhost") "admin@localhost" ({} : Settings).adminPassword ∧
      Startup.run (emailContext "admin@localhost").settings ⟨1⟩ Password.lightSalt (some {}) =
        (.ok (), some s', ns) ∧
      s'.users = [u] ∧ u.role = "admin" ∧
      (Service.handle (emailContext "admin@localhost") (adminForm "admin@localhost")
        ⟨some s', 0⟩).1 = .ok a ∧ a.status = 200 := by
  obtain ⟨hash, hashed⟩ := exists_hash_default
  have consistent : Store.Consistent {} := Store.canonical_empty.toConsistent
  have submits : Submits (adminForm "admin@localhost") "admin@localhost"
      ({} : Settings).adminPassword := submits_form (by decide) (by decide)
  obtain ⟨s', u, ns, started, users, first, logins⟩ :=
    first_login_outcome (c := emailContext "admin@localhost") consistent rfl rfl (by decide) hashed
      submits ⟨1⟩
  have within : 0 < limit := by decide
  obtain ⟨-, -, ok⟩ := logins ⟨some s', 0⟩ rfl within
  obtain ⟨a, ha, hstatus⟩ := ok.mpr
    ⟨by decide +kernel, ⟨3600, rfl⟩, .keyed256, _, rfl, Token.key_default⟩
  exact ⟨hash, s', u, ns, a, consistent, hashed, submits, started, users, first.role, ha, hstatus⟩

/-- With a blank in front of the configured email, the administrator is refused. -/
theorem refused_of_padded_email :
    ∃ hash s' u ns a, Password.hash Password.lightSalt ({} : Settings).adminPassword = .ok hash ∧
      Submits (adminForm " admin@localhost") (emailContext " admin@localhost").settings.adminEmail
        (emailContext " admin@localhost").settings.adminPassword ∧
      (emailContext " admin@localhost").settings.postgresEnabled = false ∧
      adminSlug ∈ (emailContext " admin@localhost").settings.seedRoles ∧
      Startup.run (emailContext " admin@localhost").settings ⟨1⟩ Password.lightSalt (some {}) =
        (.ok (), some s', ns) ∧
      s'.users = [u] ∧ u.role = "admin" ∧
      (Service.handle (emailContext " admin@localhost") (adminForm " admin@localhost")
        ⟨some s', 0⟩).1 = .ok a ∧ a.status = 401 := by
  obtain ⟨hash, hashed⟩ := exists_hash_default
  have submits : Submits (adminForm " admin@localhost")
      (emailContext " admin@localhost").settings.adminEmail
      (emailContext " admin@localhost").settings.adminPassword :=
    submits_form (by decide) (by decide)
  have seeded : adminSlug ∈ (emailContext " admin@localhost").settings.seedRoles := by decide
  obtain ⟨role, s', ns, started, consistent, users, first⟩ :=
    exists_run Store.canonical_empty.toConsistent rfl seeded hashed ⟨1⟩
  have hs : (⟨some s', 0⟩ : State).store = some s' := rfl
  have within : 0 < limit := by decide
  obtain ⟨answered, -⟩ := firstLogin_of_users consistent rfl submits users hashed hs within
  have padded : strip (emailContext " admin@localhost").settings.adminEmail ≠
      (emailContext " admin@localhost").settings.adminEmail := by decide +kernel
  exact ⟨hash, s', _, ns, _, hashed, submits, rfl, seeded, started, users, first.role,
    answered.eq_refused padded, rfl⟩

end FederatedLogin.Startup
