import FederatedLogin.Proofs.Access
import FederatedLogin.Proofs.Login.Soundness
import FederatedLogin.Proofs.Reconcile.Result
import FederatedLogin.Proofs.Token.Unreadable

/-!
# Who may administrate

Every request with or without a token is decided in one of the ways that `Decided` lists
(`decided`). It gets through to an administrator's page exactly if its bearer `Administrates`: the
token is accepted, and the store has an active user with the subject's identifier and one of the
roles for it. Nothing else in the token counts.

`administration` says this about the answers of the service. Whoever does not administrate is
refused with status 401 or 403, unless the tables are missing or the token would have to be verified
with a key that cannot be used. No answer is foreseen for these (`no_answer_of_empty_key`).
-/

namespace FederatedLogin.Service.Access

open Http.CrossOrigin (mark)
open Token (Unreadable)

variable {c : Context} {store : Option Store} {r r' : Http.Request} {st : State} {s : Store}
  {u : User} {id : Uuid} {token : String} {claims : List (Text × Datum)} {route : Route}

/-! ### The decision -/

/-- The role of a user is one of those that may administrate. -/
def HoldsAdminRole (u : User) : Prop := u.role = "owner" ∨ u.role = "admin"

/-- The bearer of a request's token is a user who may administrate. -/
structure Administrates (c : Context) (store : Option Store) (r : Http.Request) (u : User) :
    Prop where
  stored : ∃ s id, store = some s ∧ Names c r id ∧ s.findById id = some u
  active : u.isActive = true
  role : HoldsAdminRole u

/-- The ways in which it is decided whether a request gets through to an administrator's page. -/
inductive Decided (c : Context) (store : Option Store) (r : Http.Request) :
    Except Stop User → Prop
  | noToken (missing : bearer? r = none) : Decided c store r (.error (.refused .notAuthenticated))
  | rejected {token : String} {rejection : Token.Rejection} (bearer : bearer? r = some token)
      (rejected : Token.read c.settings c.now token = .error (.rejected rejection)) :
      Decided c store r (.error (.refused (.badToken rejection)))
  | unreadable {token : String} {flaw : Token.KeyFlaw} (bearer : bearer? r = some token)
      (unreadable : Unreadable c.settings token flaw) :
      Decided c store r (.error (.failed (.tokenKey flaw)))
  | badSubject {token : String} {claims : List (Text × Datum)} (bearer : bearer? r = some token)
      (accepted : Token.read c.settings c.now token = .ok claims) (bad : subject? claims = none) :
      Decided c store r (.error (.refused .badSubject))
  | noTables {id : Uuid} (names : Names c r id) (missing : store = none) :
      Decided c store r (.error (.failed (.store .noTables)))
  | unknownUser {s : Store} {id : Uuid} (tables : store = some s) (names : Names c r id)
      (absent : s.findById id = none) : Decided c store r (.error (.refused .unknownUser))
  | disabled {s : Store} {id : Uuid} {u : User} (tables : store = some s) (names : Names c r id)
      (found : s.findById id = some u) (inactive : u.isActive = false) :
      Decided c store r (.error (.refused .disabled))
  | notAdmin {s : Store} {id : Uuid} {u : User} (tables : store = some s) (names : Names c r id)
      (found : s.findById id = some u) (active : u.isActive = true)
      (role : ¬HoldsAdminRole u) : Decided c store r (.error (.refused .notAdmin))
  | granted {u : User} (administrates : Administrates c store r u) : Decided c store r (.ok u)

theorem contains_adminSlugs : adminSlugs.contains u.role = true ↔ HoldsAdminRole u := by
  simp [adminSlugs, HoldsAdminRole]

/-- A request is decided as `Decided` says. -/
theorem Decided.admin_eq {result : Except Stop User} (h : Decided c store r result) :
    admin c store r = result := by
  rw [Access.admin, activeUser]
  cases h with
  | noToken missing => simp [currentUser, missing, bind, Except.bind]
  | rejected bearer rejected =>
    simp [currentUser, bearer, userOf, Access.claims, rejected, bind, Except.bind]
  | unreadable bearer unreadable =>
    simp [currentUser, bearer, userOf, Access.claims, unreadable.read_eq, bind, Except.bind]
  | badSubject bearer accepted bad =>
    simp [currentUser, bearer, userOf, Access.claims, accepted, bad, bind, Except.bind]
  | noTables names missing => simp [currentUser_of_names names, missing, bind, Except.bind]
  | unknownUser tables names absent =>
    simp [currentUser_of_names names, tables, absent, bind, Except.bind]
  | disabled tables names found inactive =>
    simp [currentUser_of_names names, tables, found, inactive, bind, Except.bind]
  | notAdmin tables names found active role =>
    rw [← contains_adminSlugs, Bool.not_eq_true] at role
    simp only [currentUser_of_names names, tables, found, active, role, bind, Except.bind, pure,
      Except.pure, if_true]
    rfl
  | granted administrates =>
    obtain ⟨⟨s, id, tables, names, found⟩, active, role⟩ := administrates
    rw [← contains_adminSlugs] at role
    simp only [currentUser_of_names names, tables, found, active, role, bind, Except.bind, pure,
      Except.pure, if_true]

/-- There are no other ways. -/
theorem exists_decided (c : Context) (store : Option Store) (r : Http.Request) :
    ∃ result, Decided c store r result := by
  rcases hbearer : bearer? r with _ | token
  · exact ⟨_, .noToken hbearer⟩
  rcases hread : Token.read c.settings c.now token with (rejection | flaw) | claims
  · exact ⟨_, .rejected hbearer hread⟩
  · exact ⟨_, .unreadable hbearer (Token.read_eq_key_iff.mp hread)⟩
  rcases hsubject : subject? claims with _ | id
  · exact ⟨_, .badSubject hbearer hread hsubject⟩
  obtain ⟨subject, hfield, hid⟩ := subject?_eq_some_iff.mp hsubject
  have names : Names c r id := .intro hbearer hread hfield hid
  rcases hstore : store with _ | s
  · exact ⟨_, .noTables names rfl⟩
  rcases hfound : s.findById id with _ | u
  · exact ⟨_, .unknownUser rfl names hfound⟩
  rcases hactive : u.isActive with _ | _
  · exact ⟨_, .disabled rfl names hfound hactive⟩
  by_cases hrole : HoldsAdminRole u
  · exact ⟨_, .granted ⟨⟨s, id, rfl, names, hfound⟩, hactive, hrole⟩⟩
  · exact ⟨_, .notAdmin rfl names hfound hactive hrole⟩

/-- `Decided` describes every request, whether it is let in or not. -/
theorem decided (c : Context) (store : Option Store) (r : Http.Request) :
    Decided c store r (admin c store r) := by
  obtain ⟨result, h⟩ := exists_decided c store r
  rwa [h.admin_eq]

/-- A request is let in exactly as the user that `Administrates` names. -/
theorem admin_eq_ok_iff : admin c store r = .ok u ↔ Administrates c store r u := by
  refine ⟨fun h => ?_, fun h => (Decided.granted h).admin_eq⟩
  have hdecided := decided c store r
  rw [h] at hdecided
  cases hdecided with
  | granted administrates => exact administrates

/-! ### The subject alone -/

/-- The tokens of two requests are accepted, and their subjects are the same. -/
inductive SameSubject (c : Context) (r r' : Http.Request) : Prop
  | intro {token token' : String} {claims claims' : List (Text × Datum)}
      (bearer : bearer? r = some token) (bearer' : bearer? r' = some token')
      (accepted : Token.read c.settings c.now token = .ok claims)
      (accepted' : Token.read c.settings c.now token' = .ok claims')
      (same : Token.field? claims "sub" = Token.field? claims' "sub")

/-- Of an accepted token, only the subject counts. -/
theorem SameSubject.admin_eq (h : SameSubject c r r') (store : Option Store) :
    admin c store r = admin c store r' := by
  obtain ⟨bearer, bearer', accepted, accepted', same⟩ := h
  have huser : currentUser c store r = currentUser c store r' := by
    simp only [currentUser, bearer, bearer', userOf, Access.claims, accepted, accepted', bind,
      Except.bind, subject?, same]
  rw [Access.admin, Access.admin, activeUser, activeUser, huser]

/-! ### The answers -/

/-- The request asks for a page that only administrators get. -/
structure AsksAdmin (r : Http.Request) (route : Route) : Prop where
  restricted : route = .roles ∨ route = .roleMappings
  method : r.method = route.method
  path : r.path = route.path

/-- What an administrator's page shows. -/
def page (c : Context) (s : Store) : Route → Except Unhandled Datum
  | .roleMappings => Report.mappings c s
  | _ => .ok (Report.roles s)

/-- The answer of the handler of an administrator's page. -/
def pageAnswer (c : Context) (r : Http.Request) (s : Store) (route : Route) :
    Except Unhandled Http.Response :=
  (page c s route).map fun d => mark c.settings.corsOrigins r ⟨200, [], .json d⟩

/-- The answer is a refusal. -/
def Denies (answer : Except Unhandled Http.Response) : Prop :=
  ∃ a, answer = .ok a ∧ (a.status = 401 ∨ a.status = 403)

/-- A refusal is answered 401 or 403. -/
theorem status_of_refusal (reason : Refusal) :
    reason.response.status = 401 ∨ reason.response.status = 403 := by
  cases reason with
  | notAuthenticated | badToken | badSubject | unknownUser => exact .inl rfl
  | disabled | notAdmin => exact .inr rfl

/-- What is answered on an administrator's page, by what is decided. -/
theorem handle_of_asksAdmin (asks : AsksAdmin r route) (c : Context) (st : State) :
    (Service.handle c r st).1 = match admin c st.store r with
      | .ok _ => pageAnswer c r (st.store.getD {}) route
      | .error (.refused reason) => .ok (mark c.settings.corsOrigins r reason.response)
      | .error (.failed e) => .error e := by
  rw [Login.handle_of_route asks.method asks.path]
  rcases asks.restricted with rfl | rfl
  · rw [serve]
    rcases admin c st.store r with (reason | e) | u <;> rfl
  · rw [serve]
    rcases admin c st.store r with (reason | e) | u
    · rfl
    · rfl
    · simp only [guarded, pageAnswer, page]
      cases Report.mappings c (st.store.getD {}) <;> rfl

/-- A page fails to be shown only because of the mapping texts. -/
theorem items_eq_error {e : Unhandled} {providers : List Provider}
    (h : Report.items c s providers = .error e) :
    (∃ limit, e = .mapping limit) ∨ ∃ faults, e = .report faults := by
  induction providers with
  | nil => exact absurd h nofun
  | cons p rest ih =>
    rcases bind_eq_error.mp h with hitem | ⟨i, -, h⟩
    · rw [Report.item] at hitem
      split at hitem
      · exact absurd hitem nofun
      · exact absurd hitem nofun
      · exact .inl ⟨_, (Except.error.inj hitem).symm⟩
    dsimp only at h
    split at h
    · rcases bind_eq_error.mp h with hrest | ⟨_, -, h⟩
      · exact ih hrest
      · exact absurd h nofun
    · exact .inr ⟨_, (Except.error.inj h).symm⟩

/-- A page fails only by the limits of a mapping or by a report that cannot be written. -/
theorem page_eq_error {e : Unhandled} (h : page c s route = .error e) :
    (∃ limit, e = .mapping limit) ∨ ∃ faults, e = .report faults := by
  cases route with
  | roleMappings =>
    rcases bind_eq_error.mp h with hitems | ⟨_, -, h⟩
    · exact items_eq_error hitems
    · exact absurd h nofun
  | health | login | profile | logout | roles => exact absurd h nofun

theorem pageAnswer_eq_error {e : Unhandled} (h : pageAnswer c r s route = .error e) :
    (∃ limit, e = .mapping limit) ∨ ∃ faults, e = .report faults := by
  rcases hpage : page c s route with e' | d
  · rw [pageAnswer, hpage] at h
    obtain rfl := Except.error.inj h
    exact page_eq_error hpage
  · rw [pageAnswer, hpage] at h
    exact absurd h nofun

/-- Behind the check nothing is answered 401 or 403. -/
theorem not_denies_pageAnswer (c : Context) (r : Http.Request) (s : Store) (route : Route) :
    ¬Denies (pageAnswer c r s route) := by
  rintro ⟨a, ha, hstatus⟩
  obtain ⟨d, -, rfl⟩ := map_eq_ok.mp ha
  rcases hstatus with h | h <;> exact absurd h nofun

/-- What a request fails with that does not get through and is not refused either. -/
inductive Unanswered (c : Context) (store : Option Store) (r : Http.Request) : Unhandled → Prop
  | unreadable {token : String} {flaw : Token.KeyFlaw} (bearer : bearer? r = some token)
      (unreadable : Unreadable c.settings token flaw) : Unanswered c store r (.tokenKey flaw)
  | noTables {id : Uuid} (names : Names c r id) (missing : store = none) :
      Unanswered c store r (.store .noTables)

/-- The request fails in the check, before its page is made. -/
theorem Unanswered.admin_eq {e : Unhandled} (h : Unanswered c store r e) :
    admin c store r = .error (.failed e) := by
  cases h with
  | unreadable bearer unreadable => exact (Decided.unreadable bearer unreadable).admin_eq
  | noTables names missing => exact (Decided.noTables names missing).admin_eq

/-- A request whose bearer does not administrate is refused, or it is not answered at all. -/
theorem denies_or_unanswered (asks : AsksAdmin r route) (c : Context) (st : State)
    (h : ∀ u, ¬Administrates c st.store r u) :
    Denies (Service.handle c r st).1 ∨
      ∃ e, Unanswered c st.store r e ∧ (Service.handle c r st).1 = .error e := by
  have hdecided := decided c st.store r
  rw [handle_of_asksAdmin asks]
  rcases hadmin : admin c st.store r with (reason | e) | u
  · exact .inl ⟨_, rfl, status_of_refusal reason⟩
  · rw [hadmin] at hdecided
    cases hdecided with
    | unreadable bearer unreadable => exact .inr ⟨_, .unreadable bearer unreadable, rfl⟩
    | noTables names missing => exact .inr ⟨_, .noTables names missing, rfl⟩
  · exact absurd (admin_eq_ok_iff.mp hadmin) (h u)

/-- The latter happens to no other requests. -/
theorem handle_of_unanswered (asks : AsksAdmin r route) {e : Unhandled}
    (h : Unanswered c st.store r e) : (Service.handle c r st).1 = .error e := by
  rw [handle_of_asksAdmin asks, h.admin_eq]

/-- A request that is let in is answered with its page. -/
theorem handle_of_administrates (asks : AsksAdmin r route)
    (h : Administrates c st.store r u) :
    (Service.handle c r st).1 = pageAnswer c r (st.store.getD {}) route := by
  rw [handle_of_asksAdmin asks, admin_eq_ok_iff.mpr h]

/-- A request reaches the handler of the page exactly if its bearer administrates. -/
theorem handle_eq_pageAnswer_iff (asks : AsksAdmin r route) (c : Context) (st : State) :
    (Service.handle c r st).1 = pageAnswer c r (st.store.getD {}) route ↔
      ∃ u, Administrates c st.store r u := by
  refine ⟨fun h => ?_, fun ⟨u, hu⟩ => handle_of_administrates asks hu⟩
  by_contra hnone
  rcases denies_or_unanswered asks c st (not_exists.mp hnone) with hdenies | ⟨e, he, herror⟩
  · rw [h] at hdenies
    exact not_denies_pageAnswer c r _ route hdenies
  · rcases pageAnswer_eq_error (h.symm.trans herror) with ⟨limit, rfl⟩ | ⟨faults, rfl⟩ <;>
      exact absurd he nofun

/-- Two requests for the same page from one subject are answered alike. -/
theorem handle_eq_of_sameSubject (asks : AsksAdmin r route) (asks' : AsksAdmin r' route)
    (origin : r'.header? "origin" = r.header? "origin") (same : SameSubject c r r') (st : State) :
    (Service.handle c r' st).1 = (Service.handle c r st).1 := by
  rw [handle_of_asksAdmin asks, handle_of_asksAdmin asks', same.admin_eq]
  simp only [pageAnswer, mark, origin]

/-- A token that was issued for a stored user is refused, if the user does not administrate. -/
theorem denies_of_issue (asks : AsksAdmin r route) {now : Int} {role provider : String}
    (bearer : bearer? r = some token) (tables : st.store = some s)
    (found : s.findById id = some u) (barred : ¬(u.isActive = true ∧ HoldsAdminRole u))
    (issued : Token.issue c.settings now (.str id.text) (.str role) (.str provider) = .ok token) :
    Denies (Service.handle c r st).1 := by
  have hrefused : ∃ reason, admin c st.store r = .error (.refused reason) := by
    rcases Token.read_issued issued c.now with ⟨claims, accepted, named⟩ | ⟨rejection, rejected⟩
    · have names : Names c r id := .intro bearer accepted named (Uuid.ofText?_text id)
      rcases hactive : u.isActive with _ | _
      · exact ⟨_, (Decided.disabled tables names found hactive).admin_eq⟩
      · have role : ¬HoldsAdminRole u := fun h => barred ⟨hactive, h⟩
        exact ⟨_, (Decided.notAdmin tables names found hactive role).admin_eq⟩
    · exact ⟨_, (Decided.rejected bearer rejected).admin_eq⟩
  obtain ⟨reason, hreason⟩ := hrefused
  rw [handle_of_asksAdmin asks, hreason]
  exact ⟨_, rfl, status_of_refusal reason⟩

/-- Whether a request reaches the handler of an administrator's page is decided by the store and the
subject of the token: the token must be accepted, and its subject the identifier of a stored user
who is active and holds one of the roles for it. Every other request is refused, but for those with
an unreadable token, or with an accepted one where there are no tables; these are not answered. Two
accepted tokens of one subject get the same answer, and all tokens that were issued for a user are
refused once the user is disabled or holds another role. -/
theorem administration (asks : AsksAdmin r route) (c : Context) (st : State) :
    ((Service.handle c r st).1 = pageAnswer c r (st.store.getD {}) route ↔
        ∃ u, Administrates c st.store r u) ∧
      ((∀ u, ¬Administrates c st.store r u) →
        Denies (Service.handle c r st).1 ∨
          ∃ e, Unanswered c st.store r e ∧ (Service.handle c r st).1 = .error e) ∧
      (∀ e, Unanswered c st.store r e → (Service.handle c r st).1 = .error e) ∧
      (∀ r', AsksAdmin r' route → r'.header? "origin" = r.header? "origin" → SameSubject c r r' →
        (Service.handle c r' st).1 = (Service.handle c r st).1) ∧
      ∀ s id u, st.store = some s → s.findById id = some u →
        ¬(u.isActive = true ∧ HoldsAdminRole u) → ∀ now role provider token,
        Token.issue c.settings now (.str id.text) (.str role) (.str provider) = .ok token →
        bearer? r = some token → Denies (Service.handle c r st).1 :=
  ⟨handle_eq_pageAnswer_iff asks c st, denies_or_unanswered asks c st,
    fun _ => handle_of_unanswered asks, fun _ asks' origin same => handle_eq_of_sameSubject asks asks' origin same st,
    fun _ _ _ tables found barred _ _ _ _ issued bearer =>
      denies_of_issue asks bearer tables found barred issued⟩

/-! ### A user who loses the role -/

/-- A request for an administrator's page. -/
def adminRequest (route : Route) (token : String) : Http.Request where
  method := "GET"
  path := route.path
  headers := [("authorization", "Bearer " ++ token)]

theorem bearer?_adminRequest (route : Route) (token : String) :
    bearer? (adminRequest route token) = some token := by
  have hblank : ' ' ∉ "Bearer".toList := by decide
  have hword : Text.lower "Bearer" = "bearer" := by decide +kernel
  exact bearer?_of_header hblank hword rfl

/-- The administrator of the office. -/
def officeAdmin : User := { id := ⟨1⟩, email := "ada@example.org", role := "admin" }

/-- The office after its administrator has become a member. -/
def demotedOffice : Store :=
  { Reconcile.office with users := [{ officeAdmin with role := "member" }] }

/-- The administrator gets through with a token that was just issued. -/
theorem exists_administrates (mappings : MappingTexts) (route : Route) :
    let c : Context := { Login.adaContext with mappings := mappings }
    ∃ token, Token.issue c.settings c.now (.str officeAdmin.id.text) (.str "admin")
        (.str "local") = .ok token ∧
      Administrates c (some Reconcile.office) (adminRequest route token) officeAdmin := by
  intro c
  obtain ⟨token, issued⟩ : ∃ token, Token.issue c.settings c.now (.str officeAdmin.id.text)
      (.str "admin") (.str "local") = .ok token :=
    Login.exists_issue (rfl : Token.expiry 0 60 = .ok 3600) rfl Token.key_default _ _ _
  have signs : Token.Algorithm.ofName? Login.adaContext.settings.jwtAlgorithm ≠
      some .unsigned := by decide
  have valid : (0 : Int) < 0 + 60 * Login.adaContext.settings.jwtExpireMinutes := by decide
  obtain ⟨claims, accepted, named, -⟩ :=
    (Token.read_of_issue signs issued (Int.le_refl _)).1 valid
  have names : Names c (adminRequest route token) officeAdmin.id :=
    .intro (bearer?_adminRequest route token) accepted named (Uuid.ofText?_text _)
  exact ⟨token, issued, ⟨Reconcile.office, officeAdmin.id, rfl, names, rfl⟩, rfl, .inr rfl⟩

/-- An administrator sees the roles, and is refused with the same token after the demotion. -/
theorem administration_ada :
    let c := Login.adaContext
    ∃ token, let r := adminRequest .roles token
      AsksAdmin r .roles ∧
        (Service.handle c r ⟨some Reconcile.office, 0⟩).1 = pageAnswer c r Reconcile.office .roles ∧
        Denies (Service.handle c r ⟨some demotedOffice, 0⟩).1 := by
  intro c
  obtain ⟨token, issued, administrates⟩ := exists_administrates {} .roles
  have asks : AsksAdmin (adminRequest .roles token) .roles := ⟨.inl rfl, rfl, rfl⟩
  have barred : ¬(officeAdmin.isActive = true ∧
      HoldsAdminRole { officeAdmin with role := "member" }) := by
    simp [HoldsAdminRole]
  refine ⟨token, asks, ?_, ?_⟩
  · exact (administration asks c ⟨some Reconcile.office, 0⟩).1.mpr ⟨_, administrates⟩
  · exact (administration asks c ⟨some demotedOffice, 0⟩).2.2.2.2 demotedOffice officeAdmin.id _ rfl
      rfl barred 0 "admin" "local" token issued (bearer?_adminRequest .roles token)

/-! ### A key that cannot be used -/

/-- Where the key was left empty, a request with the token of a stranger is not answered at all,
though its bearer does not administrate. -/
theorem no_answer_of_empty_key :
    let c : Context := { Login.adaContext with settings := { jwtSecretKey := "" } }
    let r := adminRequest .roles Token.strangerToken
    let st : State := { store := some Reconcile.office }
    AsksAdmin r .roles ∧ bearer? r = some Token.strangerToken ∧
      (∀ u, ¬Administrates c st.store r u) ∧
      (Service.handle c r st).1 = .error (.tokenKey .empty) ∧
      ¬Denies (Service.handle c r st).1 := by
  intro c r st
  have asks : AsksAdmin r .roles := ⟨.inl rfl, rfl, rfl⟩
  have bearer : bearer? r = some Token.strangerToken := bearer?_adminRequest .roles _
  have unanswered : Unanswered c st.store r (.tokenKey .empty) :=
    .unreadable bearer (Token.unreadable_strangerToken rfl rfl)
  have hanswer := handle_of_unanswered asks unanswered
  refine ⟨asks, bearer, fun u hu => ?_, hanswer, ?_⟩
  · exact absurd (unanswered.admin_eq.symm.trans (admin_eq_ok_iff.mpr hu)) nofun
  · rintro ⟨a, ha, -⟩
    exact absurd (hanswer.symm.trans ha) nofun

end FederatedLogin.Service.Access
