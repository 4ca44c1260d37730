import FederatedLogin.Proofs.Reconcile.Outcome
import FederatedLogin.Service.Login

/-!
# What a login attempt can do

After the directory's verdict a login looks for its user, and `Found` lists what comes of that: the
user whose local password fits, the reconciled user that the directory vouches for, nobody, or a
failure that no answer is foreseen for. `Attempted` adds the last step, in which a user who is
active gets a token.

`Attempted.exec` says that an attempt in a consistent store does these things, and
`exists_attempted` that it does no other.
-/

namespace FederatedLogin.Service.Login

open Store (Consistent Canonical Writes answers)

variable {c : Context} {email password : String} {v : Verdict} {s s' : Store} {ns : List Notice}

/-- The local password of a user fits. -/
def fits (password : String) (u : User) : Bool :=
  u.hashedPassword.any fun h => !h.isEmpty && Password.check password h

/-- The user with an email whose local password fits. -/
def own? (email password : String) (s : Store) : Option User :=
  (s.users.find? (answers email)).filter (fits password)

/-- The ways in which a login finds its user: the result, the store afterwards, and what is
reported. -/
inductive Found (c : Context) (email password : String) (s : Store) :
    Verdict → Except Unhandled (Option User) → Store → List Notice → Prop
  | own {u : User} (fitting : own? email password s = some u) :
      Found c email password s .silent (.ok (some u)) s []
  | noOwn (unfitting : own? email password s = none) :
      Found c email password s .silent (.ok none) s []
  | broken (cause : String) :
      Found c email password s (.broken cause) (.ok none) s [.externalLoginFailed email cause]
  | vouched {a : Assertion} {u : User} {s' : Store} {ns : List Notice}
      (done : Reconcile.Reconciled (c.settings.policy c.mappings) c.newId 0 a s (.ok u) s' ns) :
      Found c email password s (.vouched a) (.ok (some u)) s' ns
  | refused {a : Assertion} {f : Reconcile.Failure} {s' : Store} {ns : List Notice}
      (done : Reconcile.Reconciled (c.settings.policy c.mappings) c.newId 0 a s (.error f) s' ns)
      (foreseen : foreseenReconcile f = true) :
      Found c email password s (.vouched a) (.ok none) s'
        (ns ++ [.externalLoginFailed email f.message])
  | failed {a : Assertion} {f : Reconcile.Failure} {s' : Store} {ns : List Notice}
      (done : Reconcile.Reconciled (c.settings.policy c.mappings) c.newId 0 a s (.error f) s' ns)
      (unforeseen : foreseenReconcile f = false) :
      Found c email password s (.vouched a) (.error (.reconcile f)) s' ns

/-- The ways in which an attempt ends: the result, the store afterwards, and what is reported. -/
inductive Attempted (c : Context) (email password : String) (s : Store) (v : Verdict) :
    Except Unhandled (Option Grant) → Store → List Notice → Prop
  | failed {e : Unhandled} {s' : Store} {ns : List Notice}
      (found : Found c email password s v (.error e) s' ns) :
      Attempted c email password s v (.error e) s' ns
  | nobody {s' : Store} {ns : List Notice} (found : Found c email password s v (.ok none) s' ns) :
      Attempted c email password s v (.ok none) s' ns
  | disabled {u : User} {s' : Store} {ns : List Notice}
      (found : Found c email password s v (.ok (some u)) s' ns) (inactive : u.isActive = false) :
      Attempted c email password s v (.ok none) s' (ns ++ [.disabledAccount u.email])
  | noToken {u : User} {s' : Store} {ns : List Notice} {e : Token.IssueError}
      (found : Found c email password s v (.ok (some u)) s' ns) (active : u.isActive = true)
      (issued : Token.issue c.settings c.now (.str u.id.text) (.str u.role) (.str u.provider) =
        .error e) :
      Attempted c email password s v (.error (.issue e)) s' ns
  | granted {u : User} {s' : Store} {ns : List Notice} {token : String}
      (found : Found c email password s v (.ok (some u)) s' ns) (active : u.isActive = true)
      (issued : Token.issue c.settings c.now (.str u.id.text) (.str u.role) (.str u.provider) =
        .ok token) :
      Attempted c email password s v (.ok (some ⟨u, token⟩)) s' ns

/-! ### Finding the user -/

/-- The directory vouches for an identity if it is set up and has a row whose password fits. -/
theorem ask_eq_vouched {setup : Directory.Setup} {a : Assertion} :
    ask c setup email password = .ok (.vouched a) ↔
      ∃ pool address d, setup = .on pool address d ∧
        d.authenticate (c.tables address) email password = .ok (some a) := by
  constructor
  · intro h
    cases setup with
    | off | noAddress => exact absurd h nofun
    | on pool address d =>
      refine ⟨pool, address, d, rfl, ?_⟩
      rw [ask] at h
      split at h
      · exact absurd h nofun
      · rename_i hauth
        obtain rfl := Verdict.vouched.inj (Except.ok.inj h)
        exact hauth
      · split at h <;> exact absurd h nofun
  · rintro ⟨pool, address, d, rfl, hauth⟩
    rw [ask, hauth]

theorem exec_localUser (h : s.Consistent) (n : List Notice) :
    (localUser email password).exec ⟨s, n⟩ = (.ok (own? email password s), ⟨s, n⟩) := by
  simp only [localUser, Action.exec_bind, Action.exec_findUser, h.findByEmail_eq]
  rfl

/-- A login finds its user as `Found` says. -/
theorem Found.exec {r : Except Unhandled (Option User)} (h : s.Consistent)
    (hf : Found c email password s v r s' ns) (n : List Notice) :
    (user c email password v).exec ⟨s, n⟩ = (r, ⟨s', n ++ ns⟩) := by
  cases hf with
  | own fitting => rw [user, exec_localUser h, fitting, List.append_nil]
  | noOwn unfitting => rw [user, exec_localUser h, unfitting, List.append_nil]
  | broken cause => simp [user, Except.map]
  | vouched done => simp [user, done.exec h]
  | refused done foreseen => simp [user, done.exec h, foreseen, Except.map]
  | failed done unforeseen => simp [user, done.exec h, unforeseen]

/-- A login finds its user in one way only. -/
theorem Found.result_unique {r r' : Except Unhandled (Option User)} {s'' : Store}
    {ns' : List Notice} (h : s.Consistent) (hf : Found c email password s v r s' ns)
    (hg : Found c email password s v r' s'' ns') : r = r' := by
  have hexec := hf.exec h []
  rw [hg.exec h []] at hexec
  exact (Prod.mk.inj hexec).1.symm

/-- There are no other ways to find a user. -/
theorem exists_found (c : Context) (email password : String) (s : Store) (v : Verdict) :
    ∃ r s' ns, Found c email password s v r s' ns := by
  cases v with
  | silent =>
    rcases hown : own? email password s with _ | u
    · exact ⟨_, _, _, .noOwn hown⟩
    · exact ⟨_, _, _, .own hown⟩
  | broken cause => exact ⟨_, _, _, .broken cause⟩
  | vouched a =>
    obtain ⟨r, s', ns, done⟩ :=
      Reconcile.exists_reconciled (c.settings.policy c.mappings) c.newId 0 a s
    rcases r with f | u
    · cases hforeseen : foreseenReconcile f
      · exact ⟨_, _, _, .failed done hforeseen⟩
      · exact ⟨_, _, _, .refused done hforeseen⟩
    · exact ⟨_, _, _, .vouched done⟩

/-! ### The attempt -/

/-- An attempt ends as `Attempted` says. -/
theorem Attempted.exec {r : Except Unhandled (Option Grant)} (h : s.Consistent)
    (ha : Attempted c email password s v r s' ns) (n : List Notice) :
    (attempt c email password v).exec ⟨s, n⟩ = (r, ⟨s', n ++ ns⟩) := by
  cases ha with
  | failed found | nobody found => simp [attempt, found.exec h]
  | disabled found inactive => simp [attempt, letIn, found.exec h, inactive, Except.map]
  | noToken found active issued | granted found active issued =>
    simp [attempt, letIn, found.exec h, active, issued, Except.map]

/-- There are no other ends of an attempt. -/
theorem exists_attempted (c : Context) (email password : String) (s : Store) (v : Verdict) :
    ∃ r s' ns, Attempted c email password s v r s' ns := by
  obtain ⟨r, s', ns, found⟩ := exists_found c email password s v
  rcases r with e | _ | u
  · exact ⟨_, _, _, .failed found⟩
  · exact ⟨_, _, _, .nobody found⟩
  cases hactive : u.isActive
  · exact ⟨_, _, _, .disabled found hactive⟩
  rcases hissue : Token.issue c.settings c.now (.str u.id.text) (.str u.role) (.str u.provider)
    with e | token
  · exact ⟨_, _, _, .noToken found hactive hissue⟩
  · exact ⟨_, _, _, .granted found hactive hissue⟩

/-! ### Writes -/

theorem Found.writes {r : Except Unhandled (Option User)} (h : s.Consistent)
    (hf : Found c email password s v r s' ns) : Writes s s' := by
  cases hf with
  | own | noOwn | broken => exact .refl
  | vouched done | refused done | failed done => exact done.writes h

/-- Only reconciling writes. -/
theorem Attempted.writes {r : Except Unhandled (Option Grant)} (h : s.Consistent)
    (ha : Attempted c email password s v r s' ns) : Writes s s' := by
  cases ha with
  | failed found | nobody found | disabled found | noToken found | granted found =>
    exact found.writes h

end FederatedLogin.Service.Login
