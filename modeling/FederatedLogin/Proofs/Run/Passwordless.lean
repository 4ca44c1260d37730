import FederatedLogin.Proofs.Login.Writes
import FederatedLogin.Proofs.Run.Identity
import FederatedLogin.Proofs.Store.Entry

/-!
# Users without a local password

Whom a reconciliation creates has no local password (`Reconciled.passwordless`), and nothing that
happens later gives one to a stored user, since passwords belong to what no write changes
(`Store.SameIdentity`). Where the directory does not authenticate a login, only a local password
lets the user in (`Service.Login.status_ne_of_passwordless`).

`no_local_login_of_run` puts this together: along every run, users whom an event has created by a
reconciliation can only log in through the directory.
-/

namespace FederatedLogin

open Store (Consistent SameIdentity answers)

/-! ### The created user -/

namespace Reconcile

variable {p : Policy} {id : Uuid} {stale : Nat} {a : Assertion} {s s' : Store} {u : User}
  {r : Except Failure User} {ns : List Notice}

/-- Whom the first stage adds has no local password. -/
theorem Account.passwordless (ha : Account p id stale a s r s' ns) (hu : u ∈ s'.users)
    (new : s.Fresh u.id) : u.hashedPassword = none := by
  cases ha with
  | disabled | noDefaultRole | lost => exact (new u hu rfl).elim
  | known found | raced _ _ _ _ found =>
    rcases Store.mem_replace hu with rfl | ⟨hu, -⟩
    · exact (new _ (seen_eq_some found).1 rfl).elim
    · exact (new u hu rfl).elim
  | created _ _ _ inserted =>
    obtain ⟨-, -, rfl⟩ := Store.insert_eq_ok_iff.mp inserted
    rcases List.mem_append.mp hu with hu | hu
    · exact (new u hu rfl).elim
    · obtain rfl := List.mem_singleton.mp hu
      rfl

/-- Whom a reconciliation adds has no local password. -/
theorem Reconciled.passwordless (hr : Reconciled p id stale a s r s' ns) (hu : u ∈ s'.users)
    (new : s.Fresh u.id) : u.hashedPassword = none := by
  cases hr with
  | noAccount => exact (new u hu rfl).elim
  | @account w _ _ _ _ _ account roleStep =>
    rcases roleStep.eq_withRole with ⟨rfl, -⟩ | ⟨role, -, -, rfl⟩
    · exact account.passwordless hu new
    rcases Store.mem_replace hu with rfl | ⟨hu, -⟩
    · have hw : w.hashedPassword = none := account.passwordless account.mem new
      exact hw
    · exact account.passwordless hu new

theorem passwordless_start (h : s.Consistent)
    (hu : u ∈ ((reconcile p id stale a).start s).2.store.users) (new : s.Fresh u.id) :
    u.hashedPassword = none :=
  ((start_eq_iff h).mp rfl).passwordless hu new

end Reconcile

/-! ### Later logins -/

namespace Service.Login

variable {c : Context} {r : Http.Request} {st : State} {s : Store} {u : User} {v : Verdict}

/-- The directory vouches for nobody in a login that it does not authenticate. -/
theorem not_vouched {setup : Directory.Setup} (unauthenticated : ∀ a, ¬Authenticated c r st a)
    (login : IsLogin r) (good : (Directory.ofSettings [] c.settings).1 = .ok setup)
    (order : complaints r = []) (within : st.logins < limit)
    (asked : ask c setup (submittedEmail r) (submittedPassword r) = .ok v) (a : Assertion) :
    v ≠ .vouched a := by
  rintro rfl
  exact unauthenticated a (authenticated_iff.mpr ⟨login, order, within, setup, good, asked⟩)

/-- A login that the directory does not authenticate is not answered with status 200, if the user
with the submitted email has no local password. -/
theorem status_ne_of_passwordless (h : s.Consistent) (hs : st.store = some s) (hu : u ∈ s.users)
    (passwordless : u.hashedPassword = none) (login : IsLogin r)
    (hanswers : answers (submittedEmail r) u = true)
    (unauthenticated : ∀ a, ¬Authenticated c r st a) {answer : Http.Response}
    (answered : (Service.handle c r st).1 = .ok answer) : answer.status ≠ 200 := by
  obtain ⟨result, s', ns, hanswered⟩ := exists_answered c r st s
  obtain ⟨hresult, -, -⟩ := hanswered.answer_eq h hs
  rw [handle_of_isLogin login] at answered
  obtain ⟨unmarked, hunmarked, rfl⟩ := map_eq_ok.mp answered
  obtain rfl := hresult.symm.trans hunmarked
  -- Of all answers, only the one to an attempt that is granted has status 200.
  cases hanswered with
  | badForm | tooMany => exact nofun
  | answered good order within asked tried =>
    have hv := not_vouched unauthenticated login good order within asked
    cases tried with
    | nobody | disabled => exact nofun
    | granted found =>
      cases found with
      | vouched => exact absurd rfl (hv _)
      | own fitting =>
        obtain ⟨hw, hwanswers, hash, hhash, -⟩ := own?_eq_some fitting
        obtain rfl := (h.separates_answers (submittedEmail r)).one _ hw u hu hwanswers hanswers
        exact absurd (hhash.symm.trans passwordless) nofun

end Service.Login

/-! ### Runs -/

namespace Run

open Service (State)
open Service.Login (IsLogin Authenticated submittedEmail)

variable {s : Store} {st : State} {u : User} {e : Event}

/-- The event can reconcile an asserted identity. -/
def Event.Reconciles : Event → Prop
  | .reconcile .. | .directoryLogin .. | .request .. => True
  | .startup .. | .ensureRoles .. | .seedRoles .. | .create .. | .sync .. | .limitLifted => False

/-- A user is stored without a local password, and no login for the user's email is answered with
status 200 unless the directory authenticates it. -/
structure NoLocalLogin (st : State) (u : User) : Prop where
  passwordless : ∃ s v, st.store = some s ∧ s.findById u.id = some v ∧ SameIdentity u v ∧
    v.hashedPassword = none
  refused : ∀ c r, IsLogin r → Text.lower (submittedEmail r) = u.email →
    (∀ a, ¬Authenticated c r st a) →
      ∀ answer, (Service.handle c r st).1 = .ok answer → answer.status ≠ 200

/-- Whom an event adds by reconciling has no local password. -/
theorem passwordless_step (h : s.Consistent) (hs : st.store = some s) (he : e.Reconciles) :
    ∃ s₁, (step st e).store = some s₁ ∧
      ∀ u ∈ s₁.users, s.Fresh u.id → u.hashedPassword = none := by
  cases e with
  | startup | ensureRoles | seedRoles | create | sync | limitLifted => exact absurd he id
  | reconcile policy id stale a =>
    exact ⟨_, store_after hs, fun u hu new => Reconcile.passwordless_start h hu new⟩
  | directoryLogin d tables email password policy id =>
    rw [step]
    split
    · exact ⟨_, store_after hs, fun u hu new => Reconcile.passwordless_start h hu new⟩
    · exact ⟨s, hs, fun u hu new => (new u hu rfl).elim⟩
  | request c r =>
    by_cases hauth : ∃ a, Authenticated c r st a
    · obtain ⟨a, hauth⟩ := hauth
      refine ⟨((reconcile (c.settings.policy c.mappings) c.newId 0 a).start s).2.store, ?_,
        fun u hu new => Reconcile.passwordless_start h hu new⟩
      rw [step, Service.Login.store_of_authenticated hauth, hs]
      rfl
    · refine ⟨s, ?_, fun u hu new => (new u hu rfl).elim⟩
      rw [step, Service.Login.store_of_not_authenticated fun a ha => hauth ⟨a, ha⟩]
      exact hs

/-- A stored user without a local password has none after any run from there on. -/
theorem noLocalLogin_foldl (h : s.Consistent) (hs : st.store = some s) (hu : u ∈ s.users)
    (passwordless : u.hashedPassword = none) (events : List Event) :
    NoLocalLogin (events.foldl step st) u := by
  obtain ⟨s', hs', hw⟩ := exists_foldl h hs events
  obtain ⟨v, hv, hsame⟩ := (h.keeps hw).users u hu
  have hconsistent := h.writes hw
  have hnone : v.hashedPassword = none := hsame.hashedPassword.trans passwordless
  refine ⟨⟨s', v, hs', ?_, hsame, hnone⟩, fun c r login hemail unauthenticated answer => ?_⟩
  · rw [← hsame.id]
    exact hconsistent.findById_of_mem hv
  · refine Service.Login.status_ne_of_passwordless hconsistent hs' hv hnone login ?_ unauthenticated
    rw [Store.answers_iff, hsame.email, ← hemail]
    exact Text.asciiLower_lower (submittedEmail r)

/-- From a store that meets its constraints on: whoever is added by an event that reconciles never
gets a local password. Whatever happens later, no login for the user's email is answered with status
200 unless the directory authenticates it. -/
theorem no_local_login_of_run (h : s.Consistent) (hs : st.store = some s) (he : e.Reconciles)
    (later : List Event) :
    ∃ s₁, (step st e).store = some s₁ ∧
      ∀ u ∈ s₁.users, s.Fresh u.id → NoLocalLogin (later.foldl step (step st e)) u := by
  obtain ⟨s₁, hs₁, hnone⟩ := passwordless_step h hs he
  obtain ⟨s', hs', hw⟩ := exists_step h hs e
  obtain rfl := Option.some.inj (hs₁.symm.trans hs')
  exact ⟨s₁, hs₁, fun u hu new => noLocalLogin_foldl (h.writes hw) hs₁ hu (hnone u hu new) later⟩

/-- A first login leaves a new user, who stays without a local password when a patch follows. A
login for her email is one that the theorem speaks of, if the directory is off. -/
theorem no_local_login_of_run_grace :
    let st : State := { store := some Reconcile.office }
    let e := Event.reconcile Reconcile.staffPolicy ⟨2⟩ 0 Reconcile.grace
    let later := [Event.sync ⟨2⟩ ⟨some "Amazing", none, none, none⟩]
    Reconcile.office.Consistent ∧ st.store = some Reconcile.office ∧ e.Reconciles ∧
      ∃ s₁, (step st e).store = some s₁ ∧ ∃ u ∈ s₁.users, Reconcile.office.Fresh u.id ∧
        NoLocalLogin (later.foldl step (step st e)) u ∧
        IsLogin Service.Login.graceForm ∧
        Text.lower (submittedEmail Service.Login.graceForm) = u.email ∧
        ∀ a, ¬Authenticated Service.Login.adaContext Service.Login.graceForm
          (later.foldl step (step st e)) a := by
  intro st e later
  have hconsistent := Reconcile.consistent_office
  have hs : st.store = some Reconcile.office := rfl
  have he : e.Reconciles := trivial
  obtain ⟨s₁, hs₁, hall⟩ := no_local_login_of_run hconsistent hs he later
  obtain ⟨s', ns, hreconciled⟩ := Reconcile.reconciled_grace
  have hstore : (step st e).store = some s' := by
    rw [step, store_after hs, hreconciled.exec hconsistent]
  obtain rfl := Option.some.inj (hstore.symm.trans hs₁)
  have new : Reconcile.office.Fresh ⟨2⟩ := by decide
  have hcanonical : Reconcile.office.Canonical := ⟨hconsistent, by decide +kernel⟩
  obtain ⟨hu, hemail⟩ := hreconciled.stored hcanonical
  have hsubmitted : Text.lower (submittedEmail Service.Login.graceForm) =
      Reconcile.grace.normalizedEmail := by decide +kernel
  exact ⟨hconsistent, hs, he, s', hs₁, _, hu, new, hall _ hu new, ⟨rfl, rfl⟩,
    hsubmitted.trans hemail.symm, fun a hauth => Bool.false_ne_true hauth.enabled⟩

end Run

end FederatedLogin
