import FederatedLogin.Proofs.Access
import FederatedLogin.Proofs.Login.Soundness
import FederatedLogin.Proofs.Run.Identity

/-!
# What the token of a login is good for

A login that is answered with status 200 grants a token that was issued for the identifier of a
stored, active user (`exists_grant`). Whatever happens afterwards, this user stays, and so a request
with the token is answered for this user until the token expires, and is refused from then on
(`token_of_login`).
-/

namespace FederatedLogin.Service.Login

open Http.CrossOrigin (mark)

variable {c c' : Context} {r : Http.Request} {st : State} {s : Store} {u : User} {token : String}

/-! ### The request -/

/-- The request asks for the profile of a token's bearer. In front of the token stands the word
"bearer", in any case of letters. -/
structure AsksProfile (r : Http.Request) (token : String) : Prop where
  method : r.method = Route.profile.method
  path : r.path = Route.profile.path
  header : ∃ word, ' ' ∉ word.toList ∧ Text.lower word = "bearer" ∧
    r.header? "authorization" = some (word ++ " " ++ token)

theorem AsksProfile.bearer (asks : AsksProfile r token) : Access.bearer? r = some token := by
  obtain ⟨word, hblank, hword, hheader⟩ := asks.header
  exact Access.bearer?_of_header hblank hword hheader

/-- The answer to the bearer of an accepted token. -/
def profileAnswer (c : Context) (r : Http.Request) (s : Store) (u : User) : Http.Response :=
  mark c.settings.corsOrigins r ⟨200, [], .json (profile s u)⟩

/-- The answer to the bearer of a token that has expired. -/
def expiredAnswer (c : Context) (r : Http.Request) : Http.Response :=
  mark c.settings.corsOrigins r (Http.refusal 401 "Token expired" Http.challenge)

/-! ### The grant -/

/-- After every run, a login that is answered with status 200 has a token issued for a stored user
who is active. -/
theorem exists_grant (events : List Run.Event) (hr : IsLogin r) {a : Http.Response}
    (answered : (Service.handle c r (Run.run events)).1 = .ok a) (ok : a.status = 200) :
    ∃ s u token, (Service.handle c r (Run.run events)).2.1.store = some s ∧ s.Consistent ∧
      u ∈ s.users ∧ u.isActive = true ∧
      Token.issue c.settings c.now (.str u.id.text) (.str u.role) (.str u.provider) = .ok token ∧
      a = mark c.settings.corsOrigins r (granted s ⟨u, token⟩) := by
  obtain ⟨s, hs, h⟩ := Run.run_canonical events
  obtain ⟨result, s', ns, hanswered⟩ := exists_answered c r (Run.run events) s
  obtain ⟨hresult, hstore, -⟩ := hanswered.answer_eq h.toConsistent hs
  have hconsistent := h.toConsistent.writes (hanswered.writes h.toConsistent)
  rw [handle_of_isLogin hr] at answered ⊢
  obtain ⟨b, hb, rfl⟩ := map_eq_ok.mp answered
  rw [hb] at hresult
  subst hresult
  cases hanswered with
  | badForm | tooMany => exact absurd ok nofun
  | answered good _ _ asked tried =>
    cases tried with
    | nobody | disabled => exact absurd ok nofun
    | granted found active issued =>
      obtain ⟨hu, -, -⟩ := found_sound h good asked found
      exact ⟨s', _, _, hstore, hconsistent, hu, active, issued, rfl⟩

/-! ### The bearer -/

/-- A token that is granted in a context has the stored user with an identifier answered until the
token expires, and is refused from then on. The settings are those that it was granted under. -/
structure Authenticates (c : Context) (token : String) (id : Uuid) (st : State) : Prop where
  valid : ∀ (c' : Context) (r : Http.Request), c'.settings = c.settings → AsksProfile r token →
    c.now ≤ c'.now → c'.now < c.now + 60 * c.settings.jwtExpireMinutes →
    ∃ s u, st.store = some s ∧ s.findById id = some u ∧ u.id = id ∧
      (Service.handle c' r st).1 = .ok (profileAnswer c' r s u)
  expired : ∀ (c' : Context) (r : Http.Request), c'.settings = c.settings → AsksProfile r token →
    c.now + 60 * c.settings.jwtExpireMinutes ≤ c'.now →
    (Service.handle c' r st).1 = .ok (expiredAnswer c' r)

theorem handle_of_read {claims : List (Text × Datum)} {id : Uuid} (asks : AsksProfile r token)
    (accepted : Token.read c.settings c.now token = .ok claims)
    (subject : Token.field? claims "sub" = some (.str id.text)) (hs : st.store = some s)
    (found : s.findById id = some u) (active : u.isActive = true) :
    (Service.handle c r st).1 = .ok (profileAnswer c r s u) := by
  have huser := Access.activeUser_of_read asks.bearer accepted subject found active
  rw [handle_of_route asks.method asks.path]
  simp only [serve, guarded, hs, huser]
  rfl

theorem handle_of_expired (asks : AsksProfile r token)
    (rejected : Token.read c.settings c.now token = .error (.rejected .expired)) :
    (Service.handle c r st).1 = .ok (expiredAnswer c r) := by
  have hrefused := Access.activeUser_of_rejected asks.bearer rejected st.store
  rw [handle_of_route asks.method asks.path]
  simp only [serve, guarded, hrefused]
  rfl

/-- A token authenticates the user that it was issued for, where this user is stored and active. -/
theorem authenticates_of_issue {id : Uuid} {role provider : String}
    (signs : Token.Algorithm.ofName? c.settings.jwtAlgorithm ≠ some .unsigned)
    (lasting : 1 ≤ c.settings.jwtExpireMinutes)
    (issued : Token.issue c.settings c.now (.str id.text) (.str role) (.str provider) = .ok token)
    (hs : st.store = some s) (found : s.findById id = some u) (active : u.isActive = true) :
    Authenticates c token id st := by
  refine ⟨fun c' r settings asks hnow hvalid => ?_, fun c' r settings asks hexpired => ?_⟩
  · obtain ⟨claims, hread, hsubject, -, -⟩ := (Token.read_of_issue signs issued hnow).1 hvalid
    rw [← settings] at hread
    have hid : u.id = id := by simpa using List.find?_some found
    exact ⟨s, u, hs, found, hid, handle_of_read asks hread hsubject hs found active⟩
  · have hnow : c.now ≤ c'.now := by omega
    have hread := (Token.read_of_issue signs issued hnow).2 hexpired
    rw [← settings] at hread
    exact handle_of_expired asks hread

/-! ### Sessions -/

theorem signs_of_mem {name : String} (h : name ∈ ["HS256", "HS384", "HS512"]) :
    Token.Algorithm.ofName? name ≠ some .unsigned := by
  simp only [List.mem_cons, List.not_mem_nil, or_false] at h
  rcases h with rfl | rfl | rfl <;> decide

/-- No event of a run takes away a stored user, or a user's identifier or activity. -/
theorem exists_user_of_run (h : s.Consistent) (hs : st.store = some s) (hu : u ∈ s.users)
    (events : List Run.Event) :
    ∃ s' v, (events.foldl Run.step st).store = some s' ∧ s'.findById u.id = some v ∧
      v.isActive = u.isActive := by
  obtain ⟨s', hs', hw⟩ := Run.exists_foldl h hs events
  obtain ⟨v, hv, hsame⟩ := (h.keeps hw).users u hu
  have hfound := (h.writes hw).findById_of_mem hv
  rw [hsame.id] at hfound
  exact ⟨s', v, hs', hfound, hsame.isActive⟩

/-- After every run, a login that is answered with status 200 grants a token that authenticates the
user whom the answer shows, whatever happens afterwards. In general, a token gives back what it was
issued for until it expires. -/
theorem token_of_login (settings : Settings)
    (signs : settings.jwtAlgorithm ∈ ["HS256", "HS384", "HS512"])
    (lasting : 1 ≤ settings.jwtExpireMinutes) :
    (∀ (events : List Run.Event) (c : Context) (r : Http.Request) (a : Http.Response),
      c.settings = settings → IsLogin r →
      (Service.handle c r (Run.run events)).1 = .ok a → a.status = 200 →
      ∃ token s u, (Service.handle c r (Run.run events)).2.1.store = some s ∧ u ∈ s.users ∧
        a.body = .json (.object [("access_token", .str token), ("token_type", .str "bearer"),
          ("user", profile s u)]) ∧
        ∀ later : List Run.Event, Authenticates c token u.id
          (later.foldl Run.step (Service.handle c r (Run.run events)).2.1)) ∧
    ∀ (now t : Int) (subject role provider token : String),
      Token.issue settings now (.str subject) (.str role) (.str provider) = .ok token →
      now ≤ t → t < now + 60 * settings.jwtExpireMinutes →
      ∃ claims, Token.read settings t token = .ok claims ∧
        Token.field? claims "sub" = some (.str subject) ∧
        Token.field? claims "role" = some (.str role) ∧
        Token.field? claims "provider" = some (.str provider) := by
  have hsigns := signs_of_mem signs
  refine ⟨?_, fun now t subject role provider token issued hnow hvalid =>
    (Token.read_of_issue hsigns issued hnow).1 hvalid⟩
  rintro events c r a rfl hr answered ok
  obtain ⟨s, u, token, hs, h, hu, hactive, issued, rfl⟩ := exists_grant events hr answered ok
  refine ⟨token, s, u, hs, hu, rfl, fun later => ?_⟩
  obtain ⟨s', v, hs', hfound, hsame⟩ := exists_user_of_run h hs hu later
  exact authenticates_of_issue hsigns lasting issued hs' hfound (hsame.trans hactive)

/-- A request for the profile of a token's bearer. -/
def adaRequest (token : String) : Http.Request where
  method := "GET"
  path := "/api/v1/auth/me"
  headers := [("authorization", "Bearer " ++ token)]

theorem asksProfile_adaRequest (token : String) : AsksProfile (adaRequest token) token :=
  ⟨rfl, rfl, "Bearer", by decide, by decide +kernel, rfl⟩

/-- Ada's token shows her profile an hour less a second after her login, and has expired a second
later. -/
theorem token_of_login_ada :
    let settings : Settings := {}
    settings.jwtAlgorithm ∈ ["HS256", "HS384", "HS512"] ∧ 1 ≤ settings.jwtExpireMinutes ∧
      adaContext.settings = settings ∧ IsLogin adaForm ∧
      ∃ hash a token s u, (Service.handle adaContext adaForm (Run.run (adaRun hash))).1 = .ok a ∧
        a.status = 200 ∧
        (Service.handle adaContext adaForm (Run.run (adaRun hash))).2.1.store = some s ∧
        a.body = .json (.object [("access_token", .str token), ("token_type", .str "bearer"),
          ("user", profile s u)]) ∧
        ∀ later : List Run.Event,
          let st := later.foldl Run.step
            (Service.handle adaContext adaForm (Run.run (adaRun hash))).2.1
          (∃ s' v, st.store = some s' ∧ s'.findById u.id = some v ∧
            (Service.handle { adaContext with now := 3599 } (adaRequest token) st).1 =
              .ok (profileAnswer { adaContext with now := 3599 } (adaRequest token) s' v)) ∧
          (Service.handle { adaContext with now := 3600 } (adaRequest token) st).1 =
            .ok (expiredAnswer { adaContext with now := 3600 } (adaRequest token)) := by
  refine ⟨by decide, by decide, rfl, ⟨rfl, rfl⟩, ?_⟩
  obtain ⟨hash, a, ha, hok⟩ := exists_answered_ada
  obtain ⟨hsessions, -⟩ := token_of_login {} (by decide) (by decide)
  obtain ⟨token, s, u, hs, -, hbody, hlater⟩ :=
    hsessions (adaRun hash) adaContext adaForm a rfl ⟨rfl, rfl⟩ ha hok
  refine ⟨hash, a, token, s, u, ha, hok, hs, hbody, fun later => ?_⟩
  have hasks := asksProfile_adaRequest token
  obtain ⟨s', v, hs', hfound, -, hanswer⟩ :=
    (hlater later).valid { adaContext with now := 3599 } (adaRequest token) rfl hasks (by decide)
      (by decide)
  exact ⟨⟨s', v, hs', hfound, hanswer⟩,
    (hlater later).expired { adaContext with now := 3600 } (adaRequest token) rfl hasks (by decide)⟩

end FederatedLogin.Service.Login
