import FederatedLogin.Command
import FederatedLogin.Proofs.Login.Answer
import FederatedLogin.Proofs.Reconcile.SingleWrite
import FederatedLogin.Proofs.Startup

/-!
# Runs of the program

A run is any sequence of the things that can happen to the program, from empty tables on: starts,
role seeding, new users, reconciliations, patches, directory logins and requests. An event that ends
in an error stays part of the run, with whatever it wrote before.

Every event only makes the writes of `Store.Write` (`exists_step`), and so does every run
(`exists_run`). Hence every run ends in a canonical store (`run_canonical`): what holds of an empty
store and is kept by each write holds after every run.
-/

namespace FederatedLogin.Run

open Store (Consistent Canonical Writes)
open Service (State)

variable {s : Store} {st : State}

/-! ### Events -/

/-- What can happen to the program. -/
inductive Event where
  | startup (settings : Settings) (id : Uuid) (salt : String)
  | ensureRoles (slugs : List String)
  | seedRoles (settings : Settings) (slugs : List String)
  | create (draft : Draft)
  | reconcile (policy : Policy) (id : Uuid) (stale : Nat) (assertion : Assertion)
  /-- A patch for the stored user with an identifier. -/
  | sync (id : Uuid) (patch : AttributePatch)
  /-- A login with a directory outside of a request. -/
  | directoryLogin (directory : Directory) (tables : List Directory.Table)
      (email password : String) (policy : Policy) (id : Uuid)
  | request (context : Service.Context) (request : Http.Request)
  /-- The time is over for which logins are counted. -/
  | limitLifted

/-- The state after an action, however it ends. -/
def after {ε α : Type} (a : Action ε α) (st : State) : State :=
  { st with store := st.store.map fun s => (a.start s).2.store }

/-- Apply a patch to the stored user with an identifier, if there is one. -/
def syncById (id : Uuid) (patch : AttributePatch) : Action Reconcile.Failure (Option User) := do
  match (← Action.store).findById id with
  | none => return none
  | some u => return some (← syncAttributes u patch)

/-- The state after an event. -/
def step (st : State) : Event → State
  | .startup settings id salt => { st with store := (Startup.run settings id salt st.store).2.1 }
  | .ensureRoles slugs => after (Action.ensureRoles slugs : Action Store.Fault _) st
  | .seedRoles settings slugs => after (Command.seedRoles settings slugs : Action Store.Fault _) st
  | .create draft => after (Reconcile.create draft) st
  | .reconcile policy id stale a => after (FederatedLogin.reconcile policy id stale a) st
  | .sync id patch => after (syncById id patch) st
  | .directoryLogin d tables email password policy id =>
    match d.authenticate tables email password with
    | .ok (some a) => after (FederatedLogin.reconcile policy id 0 a) st
    | _ => st
  | .request c r => (Service.handle c r st).2.1
  | .limitLifted => { st with logins := 0 }

/-- The program with empty tables. -/
def fresh : State := { store := some {} }

/-- The state after a run. -/
def run (events : List Event) : State := events.foldl step fresh

/-! ### What a run writes -/

/-- What an action leaves behind as an event is what it leaves when it is started on its own. -/
theorem store_after {ε α : Type} {a : Action ε α} (hs : st.store = some s) :
    (after a st).store = some (a.exec ⟨s, []⟩).2.store := by
  rw [after, hs]
  rfl

theorem writes_reconcile (h : s.Consistent) (p : Policy) (id : Uuid) (stale : Nat) (a : Assertion)
    (n : List Notice) : Writes s ((reconcile p id stale a).exec ⟨s, n⟩).2.store := by
  obtain ⟨r, s', ns, hr⟩ := Reconcile.exists_reconciled p id stale a s
  rw [hr.exec h]
  exact hr.writes h

/-- A patch for an identifier is a patch for the stored user who has it, or it does nothing. -/
theorem store_syncById (s : Store) (id : Uuid) (patch : AttributePatch) (n : List Notice) :
    ((syncById id patch).exec ⟨s, n⟩).2.store = s ∨
      ∃ u ∈ s.users, u.id = id ∧ ((syncById id patch).exec ⟨s, n⟩).2.store =
        ((syncAttributes u patch).exec ⟨s, n⟩).2.store := by
  rcases hfound : s.findById id with _ | u
  · exact .inl (by simp [syncById, hfound])
  · have hid : u.id = id := by simpa using List.find?_some hfound
    exact .inr ⟨u, List.mem_of_find?_eq_some hfound, hid, by simp [syncById, hfound]⟩

theorem writes_syncById (h : s.Consistent) (id : Uuid) (patch : AttributePatch)
    (n : List Notice) : Writes s ((syncById id patch).exec ⟨s, n⟩).2.store := by
  rcases store_syncById s id patch n with hstore | ⟨u, hu, -, hstore⟩
  · exact hstore.symm ▸ .refl
  · rw [hstore]
    exact Reconcile.writes_syncAttributes h hu patch n

/-- Every event, whatever its outcome, is a number of writes. -/
theorem exists_step (h : s.Consistent) (hs : st.store = some s) (e : Event) :
    ∃ s', (step st e).store = some s' ∧ Writes s s' := by
  cases e with
  | startup settings id salt =>
    refine ⟨_, ?_, Startup.writes_startup h settings id salt []⟩
    rw [step, Startup.run, hs]
    rfl
  | ensureRoles slugs =>
    refine ⟨_, store_after hs, ?_⟩
    rw [Action.exec_ensureRoles]
    exact Store.writes_ensureRoles s slugs
  | seedRoles settings slugs =>
    refine ⟨_, store_after hs, ?_⟩
    rw [Command.seedRoles, Action.exec_ensureRoles]
    exact Store.writes_ensureRoles s _
  | create draft => exact ⟨_, store_after hs, Reconcile.writes_create draft []⟩
  | reconcile policy id stale a =>
    exact ⟨_, store_after hs, writes_reconcile h policy id stale a []⟩
  | sync id patch => exact ⟨_, store_after hs, writes_syncById h id patch []⟩
  | directoryLogin d tables email password policy id =>
    rw [step]
    split
    · exact ⟨_, store_after hs, writes_reconcile h policy id 0 _ []⟩
    · exact ⟨s, hs, .refl⟩
  | request c r => exact Service.Login.exists_handle h hs c r
  | limitLifted => exact ⟨s, hs, .refl⟩

/-- From a consistent store on, any number of events are a number of writes. -/
theorem exists_foldl (h : s.Consistent) (hs : st.store = some s) (events : List Event) :
    ∃ s', (events.foldl step st).store = some s' ∧ Writes s s' := by
  -- A step asks for a consistent store, so the writes so far have to be known to keep it that way.
  induction events generalizing st s with
  | nil => exact ⟨s, hs, .refl⟩
  | cons e events ih =>
    obtain ⟨s₁, hs₁, hw₁⟩ := exists_step h hs e
    obtain ⟨s₂, hs₂, hw₂⟩ := ih (h.writes hw₁) hs₁
    exact ⟨s₂, hs₂, hw₁.trans hw₂⟩

theorem exists_run (events : List Event) :
    ∃ s, (run events).store = some s ∧ Writes {} s :=
  exists_foldl Store.canonical_empty.toConsistent rfl events

/-- Every run ends in a canonical store. -/
theorem run_canonical (events : List Event) :
    ∃ s, (run events).store = some s ∧ s.Canonical := by
  obtain ⟨s, hs, hw⟩ := exists_run events
  exact ⟨s, hs, Store.canonical_empty.writes hw⟩

/-! ### The store after a run -/

/-- In a canonical store, no two users have the same email in any case of letters. -/
theorem lower_ne_of_canonical (h : s.Canonical) :
    s.users.Pairwise fun u v => Text.lower u.email ≠ Text.lower v.email := by
  refine h.users.imp_of_mem fun {u v} hu hv hclash heq => ?_
  rw [h.emails u hu, h.emails v hv] at heq
  exact (Store.clashes_eq_false_iff.mp hclash).2 (congrArg Text.asciiLower heq)

/-- After every run all emails are in lower case, no two users share one, every user holds a stored
role, and no two roles share a slug. So looking up a user or a role never meets a second row, be it
on its own, in a local login or in a reconciliation. -/
theorem store_of_run (events : List Event) :
    ∃ s, (run events).store = some s ∧
      (∀ u ∈ s.users, Text.lower u.email = u.email) ∧
      (s.users.Pairwise fun u v => Text.lower u.email ≠ Text.lower v.email) ∧
      (∀ u ∈ s.users, ∃ r ∈ s.roles, r.slug = u.role) ∧
      (s.roles.Pairwise fun r q => r.slug ≠ q.slug) ∧
      (∀ email, ∃ found, s.findByEmail email = .ok found) ∧
      (∀ slug, ∃ found, s.findRole slug = .ok found) ∧
      (∀ email password, ∃ found,
        ((Service.Login.localUser email password).start s).1 = .ok found) ∧
      (∀ p id stale a fault, ((reconcile p id stale a).start s).1 ≠ .error (.store fault)) := by
  obtain ⟨s, hs, h⟩ := run_canonical events
  refine ⟨s, hs, h.emails, lower_ne_of_canonical h, ?_, h.roles, ?_, ?_, ?_, ?_⟩
  · exact fun u hu => Store.holdsRole_iff.mp (h.held u hu)
  · exact fun email => ⟨_, h.findByEmail_eq email⟩
  · exact fun slug => ⟨_, h.findRole_eq slug⟩
  · intro email password
    rw [Action.start_eq, Service.Login.exec_localUser h.toConsistent]
    exact ⟨_, rfl⟩
  · intro p id stale a fault hfault
    obtain ⟨r, s', ns, hr⟩ := Reconcile.exists_reconciled p id stale a s
    rw [Action.start_eq, hr.exec h.toConsistent] at hfault
    subst hfault
    exact hr.ne_store fault rfl

end FederatedLogin.Run
