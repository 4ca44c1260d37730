import FederatedLogin.Proofs.Login.Attempt
import FederatedLogin.Service

/-!
# How the service answers a login request

A login request is answered in six ways (`Answered`): the directory cannot be set up, the form is
not in order, there were too many logins, the directory fails in a way that no answer is foreseen
for, or an attempt is made, which fails in such a way or gets its answer. `exists_answered` says
that there are no others, and `handle_of_isLogin` that the service as a whole only marks the answer.

Any other request leaves the store alone (`handle_of_not_isLogin`), so that a request writes no more
than an attempt does (`exists_handle`).
-/

namespace FederatedLogin.Service.Login

open Store (Consistent Writes)

variable {c : Context} {r : Http.Request} {st : State} {s s' : Store} {ns : List Notice}

/-- The request is one to log in. -/
structure IsLogin (r : Http.Request) : Prop where
  method : r.method = Route.login.method
  path : r.path = Route.login.path

/-- The email that a login form names. -/
def submittedEmail (r : Http.Request) : String := Text.strip ((r.field? "username").getD "")

/-- The password in a login form. -/
def submittedPassword (r : Http.Request) : String := (r.field? "password").getD ""

/-- The answer to an attempt. -/
def response (s : Store) : Option Grant → Http.Response
  | none => refused
  | some g => granted s g

/-- The ways in which a login request is answered: the result, the store afterwards, and what is
reported. -/
inductive Answered (c : Context) (r : Http.Request) (st : State) (s : Store) :
    Except Unhandled Http.Response → Store → List Notice → Prop
  | noSetup {e : Directory.SetupError} (bad : (Directory.ofSettings [] c.settings).1 = .error e) :
      Answered c r st s (.error (.setup e)) s []
  | badForm {setup : Directory.Setup} (good : (Directory.ofSettings [] c.settings).1 = .ok setup)
      (disorder : complaints r ≠ []) :
      Answered c r st s (.ok ⟨422, [], .json (.object [("detail", .list (complaints r))])⟩) s
        setup.notices
  | tooMany {setup : Directory.Setup} (good : (Directory.ofSettings [] c.settings).1 = .ok setup)
      (order : complaints r = []) (beyond : limit ≤ st.logins) :
      Answered c r st s (.ok limited) s setup.notices
  | unasked {setup : Directory.Setup} {e : Unhandled}
      (good : (Directory.ofSettings [] c.settings).1 = .ok setup)
      (order : complaints r = []) (within : st.logins < limit)
      (unforeseen : ask c setup (submittedEmail r) (submittedPassword r) = .error e) :
      Answered c r st s (.error e) s setup.notices
  | failed {setup : Directory.Setup} {v : Verdict} {e : Unhandled} {s' : Store} {ns : List Notice}
      (good : (Directory.ofSettings [] c.settings).1 = .ok setup)
      (order : complaints r = []) (within : st.logins < limit)
      (asked : ask c setup (submittedEmail r) (submittedPassword r) = .ok v)
      (tried : Attempted c (submittedEmail r) (submittedPassword r) s v (.error e) s' ns) :
      Answered c r st s (.error e) s' (setup.notices ++ ns)
  | answered {setup : Directory.Setup} {v : Verdict} {grant : Option Grant} {s' : Store}
      {ns : List Notice} (good : (Directory.ofSettings [] c.settings).1 = .ok setup)
      (order : complaints r = []) (within : st.logins < limit)
      (asked : ask c setup (submittedEmail r) (submittedPassword r) = .ok v)
      (tried : Attempted c (submittedEmail r) (submittedPassword r) s v (.ok grant) s' ns) :
      Answered c r st s (.ok (response s' grant)) s' (setup.notices ++ ns)

/-! ### Login requests -/

/-- What an attempt comes to is what is answered. -/
theorem handle_eq (st : State) {setup : Directory.Setup} {email password : String} {v : Verdict}
    {result : Except Unhandled (Option Grant)} (hs : st.store = some s)
    (asked : ask c setup email password = .ok v)
    (hexec : (attempt c email password v).exec ⟨s, []⟩ = (result, ⟨s', ns⟩)) :
    handle c setup email password st =
      (result.map (response s'), { st with store := some s' }, ns) := by
  rw [handle, asked]
  simp only [hs, Action.startOn, Action.start_eq, hexec]
  rcases result with e | _ | g <;> rfl

/-- A login that is in order and within the limit is counted and handled. -/
theorem answer_of_inOrder {setup : Directory.Setup}
    (good : (Directory.ofSettings [] c.settings).1 = .ok setup) (order : complaints r = [])
    (within : st.logins < limit) :
    answer c r st = (fun x => (x.1, x.2.1, setup.notices ++ x.2.2))
      (handle c setup (submittedEmail r) (submittedPassword r)
        { st with logins := st.logins + 1 }) := by
  simp [answer, good, order, Nat.not_le_of_lt within, submittedEmail, submittedPassword]

/-- A login request is answered as `Answered` says. -/
theorem Answered.answer_eq {result : Except Unhandled Http.Response} (h : s.Consistent)
    (hs : st.store = some s) (ha : Answered c r st s result s' ns) :
    (answer c r st).1 = result ∧ (answer c r st).2.1.store = some s' ∧
      (answer c r st).2.2 = ns := by
  cases ha with
  | noSetup bad => simp [answer, bad, hs]
  | badForm good disorder => simp [answer, good, disorder, hs]
  | tooMany good order beyond => simp [answer, good, order, beyond, hs]
  | unasked good order within unforeseen =>
    simp [answer_of_inOrder good order within, handle, unforeseen, hs]
  | failed good order within asked tried | answered good order within asked tried =>
    rw [answer_of_inOrder good order within,
      handle_eq { st with logins := st.logins + 1 } hs asked (tried.exec h [])]
    exact ⟨rfl, rfl, rfl⟩

/-- There are no other answers to a login request. -/
theorem exists_answered (c : Context) (r : Http.Request) (st : State) (s : Store) :
    ∃ result s' ns, Answered c r st s result s' ns := by
  rcases hsetup : (Directory.ofSettings [] c.settings).1 with e | setup
  · exact ⟨_, _, _, .noSetup hsetup⟩
  by_cases horder : complaints r = []
  swap
  · exact ⟨_, _, _, .badForm hsetup horder⟩
  rcases Nat.lt_or_ge st.logins limit with hwithin | hbeyond
  swap
  · exact ⟨_, _, _, .tooMany hsetup horder hbeyond⟩
  rcases hask : ask c setup (submittedEmail r) (submittedPassword r) with e | v
  · exact ⟨_, _, _, .unasked hsetup horder hwithin hask⟩
  obtain ⟨result, s', ns, htried⟩ :=
    exists_attempted c (submittedEmail r) (submittedPassword r) s v
  rcases result with e | grant
  · exact ⟨_, _, _, .failed hsetup horder hwithin hask htried⟩
  · exact ⟨_, _, _, .answered hsetup horder hwithin hask htried⟩

theorem Answered.writes {result : Except Unhandled Http.Response} (h : s.Consistent)
    (ha : Answered c r st s result s' ns) : Writes s s' := by
  cases ha with
  | noSetup | badForm | tooMany | unasked => exact .refl
  | failed _ _ _ _ tried | answered _ _ _ _ tried => exact tried.writes h

/-! ### The service -/

theorem ofPath?_eq_some {p : String} {route : Route} (h : Route.ofPath? p = some route) :
    p = route.path := by
  have hpath := List.find?_some h
  exact (beq_iff_eq.mp hpath).symm

/-- An answer to a request for a route is only marked on its way out. -/
theorem handle_of_route {route : Route} (method : r.method = route.method)
    (path : r.path = route.path) (c : Context) (st : State) :
    Service.handle c r st =
      ((serve c r st route).1.map (Http.CrossOrigin.mark c.settings.corsOrigins r),
        (serve c r st route).2.1, (serve c r st route).2.2) := by
  -- A route is asked for its content, so the request is no preflight and the answer keeps its body.
  have hpreflight : Http.CrossOrigin.preflight? c.settings.corsOrigins r = none := by
    rw [Http.CrossOrigin.preflight?, method]
    cases route <;> rfl
  have hsent (a : Http.Response) : sent r a = a := by
    rw [sent, method]
    cases route <;> exact if_neg (by decide)
  have hroute : Route.ofPath? r.path = some route := by
    rw [path]
    cases route <;> decide
  simp only [Service.handle, hpreflight, respond, hroute, method, if_true, hsent]

/-- An answer to a login request is only marked on its way out. -/
theorem handle_of_isLogin (hr : IsLogin r) (c : Context) (st : State) :
    Service.handle c r st =
      ((answer c r st).1.map (Http.CrossOrigin.mark c.settings.corsOrigins r),
        (answer c r st).2.1, (answer c r st).2.2) :=
  handle_of_route hr.method hr.path c st

/-- The service answers a login request as `Answered` says, with the answer marked. -/
theorem Answered.handle_eq {result : Except Unhandled Http.Response} (h : s.Consistent)
    (hs : st.store = some s) (hr : IsLogin r) (ha : Answered c r st s result s' ns) :
    (Service.handle c r st).1 = result.map (Http.CrossOrigin.mark c.settings.corsOrigins r) ∧
      (Service.handle c r st).2.1.store = some s' := by
  obtain ⟨hresult, hstore, -⟩ := ha.answer_eq h hs
  rw [handle_of_isLogin hr, hresult]
  exact ⟨rfl, hstore⟩

theorem respond_of_not_isLogin (hr : ¬IsLogin r) (c : Context) (st : State) :
    (respond c r st).2.1 = st := by
  rw [respond]
  split
  · rfl
  rename_i route hroute
  split
  · rename_i hmethod
    cases route with
    | login => exact absurd ⟨hmethod, ofPath?_eq_some hroute⟩ hr
    | health | profile | logout | roles | roleMappings => rfl
  · rfl

/-- Only login requests change anything. -/
theorem handle_of_not_isLogin (hr : ¬IsLogin r) (c : Context) (st : State) :
    (Service.handle c r st).2.1 = st := by
  rw [Service.handle]
  split
  · rfl
  · exact respond_of_not_isLogin hr c st

/-- A request writes no more than a login attempt does, and never loses the store. -/
theorem exists_handle (h : s.Consistent) (hs : st.store = some s) (c : Context)
    (r : Http.Request) :
    ∃ s', (Service.handle c r st).2.1.store = some s' ∧ Writes s s' := by
  by_cases hr : IsLogin r
  · obtain ⟨_, s', _, hanswered⟩ := exists_answered c r st s
    refine ⟨s', ?_, hanswered.writes h⟩
    rw [handle_of_isLogin hr]
    exact (hanswered.answer_eq h hs).2.1
  · refine ⟨s, ?_, .refl⟩
    rw [handle_of_not_isLogin hr]
    exact hs

end FederatedLogin.Service.Login
