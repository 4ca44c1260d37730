import FederatedLogin.Proofs.Reconcile.Frame
import FederatedLogin.Proofs.Reconcile.Result
import FederatedLogin.Proofs.Run
import FederatedLogin.Proofs.Store.Seeding

/-!
# Identities along a run

Every event is about one user at most, the one that it `Concerns`, and of that user it changes no
more than the names and the role (`Changes`): a patch changes the names only. `confined_step` says
so for one event.

Whatever happens, no row disappears, no role changes, and users keep all their other columns:
`identity_of_run` says this about runs of any length from any store that meets its constraints.
-/

namespace FederatedLogin.Run

open Store (Consistent Separates Confined SameIdentity Renewed Renamed Touched answers)
open Service (State)
open Service.Login (IsLogin submittedEmail)

variable {s s' : Store} {st : State}

/-- The users that an event is about. -/
def Event.Concerns : Event → User → Prop
  | .startup settings _ _, u => answers settings.adminEmail u = true
  | .create draft, u => answers draft.email u = true
  | .reconcile _ _ _ a, u => answers a.normalizedEmail u = true
  | .sync id _, u => u.id = id
  | .directoryLogin d tables email password _ _, u =>
    ∃ a, d.authenticate tables email password = .ok (some a) ∧ answers a.normalizedEmail u = true
  | .request _ r, u => IsLogin r ∧ answers (submittedEmail r) u = true
  | .ensureRoles _, _ | .seedRoles _ _, _ | .limitLifted, _ => False

/-- How an event may change a stored user that it is about. -/
def Event.Changes : Event → User → User → Prop
  | .reconcile .. | .directoryLogin .. | .request .. => Renewed
  | .sync .. => Renamed
  | .startup .. | .create .. | .ensureRoles .. | .seedRoles .. | .limitLifted => Eq

theorem Event.changes_refl (e : Event) (u : User) : e.Changes u u := by
  cases e with
  | reconcile | directoryLogin | request => exact Store.renewed_refl u
  | sync => exact Store.renamed_refl u
  | startup | create | ensureRoles | seedRoles | limitLifted => rfl

/-- An event is about one stored user at most. -/
theorem separates_concerns (h : s.Consistent) (e : Event) : Separates e.Concerns s := by
  cases e with
  | startup | create | reconcile => exact h.separates_answers _
  | sync id => exact h.separates_id id
  | directoryLogin d tables email password =>
    constructor
    · rintro u v huv ⟨a, hauth, hu⟩
      exact ⟨a, hauth, (h.separates_answers _).alike u v huv hu⟩
    · rintro u hu v hv ⟨a, hauth, hua⟩ ⟨b, hauth', hvb⟩
      obtain rfl := Option.some.inj (Except.ok.inj (hauth.symm.trans hauth'))
      exact (h.separates_answers _).one u hu v hv hua hvb
  | request c r =>
    constructor
    · rintro u v huv ⟨hr, hu⟩
      exact ⟨hr, (h.separates_answers _).alike u v huv hu⟩
    · rintro u hu v hv ⟨-, hua⟩ ⟨-, hva⟩
      exact (h.separates_answers _).one u hu v hv hua hva
  | ensureRoles | seedRoles | limitLifted => exact ⟨fun _ _ _ => id, fun _ _ _ _ => False.elim⟩

/-! ### Single events -/

/-- The first user is added, or nothing changes. -/
theorem touched_bootstrapped {c : Settings} {id : Uuid} {salt : String}
    {r : Except Startup.Failure Unit} {ns : List Notice}
    (hb : Startup.Bootstrapped c id salt s r s' ns) :
    Touched (fun u => answers c.adminEmail u = true) Eq s s' := by
  cases hb with
  | populated | noRole | noHash => exact .nothing
  | @created role hash users =>
    have hadded : s.users ++ [Startup.firstUser c id role hash] =
        [Startup.firstUser c id role hash] := by rw [users, List.nil_append]
    rw [← hadded]
    refine .added (Store.answers_iff.mpr (Text.asciiLower_lower c.adminEmail)) ?_
    rw [users]
    exact nofun

theorem touched_create (d : Draft) :
    Touched (fun u => answers d.email u = true) Eq s
      ((Reconcile.create d).exec ⟨s, []⟩).2.store := by
  rw [Reconcile.exec_create]
  rcases hinsert : s.insertDraft { d with email := Text.lower d.email } with f | ⟨u, s'⟩
  · exact .nothing
  · obtain ⟨huser, hinserted⟩ := Store.insertDraft_eq_ok hinsert
    obtain ⟨-, hfree, rfl⟩ := Store.insert_eq_ok_iff.mp hinserted
    refine .added ?_ fun v hv hid => (Store.clashes_eq_false_iff.mp (hfree v hv)).1 hid.symm
    rw [Store.answers_iff, Store.email_of_user? huser]
    exact Text.asciiLower_lower d.email

/-- What an event touches in a store with the same users is what it is confined to. -/
theorem confined_of_touched {e : Event} {s₁ : Store} (h : s₁.Consistent)
    (husers : s₁.users = s.users) (ht : Touched e.Concerns e.Changes s₁ s') :
    Confined e.Concerns e.Changes s s' :=
  (ht.confined h (separates_concerns h e) e.changes_refl).of_users_eq husers

/-- An event that adds roles to a store, or nothing at all, leaves all users alone. -/
theorem confined_of_users_eq (h : s.Consistent) (e : Event) (husers : s'.users = s.users) :
    Confined e.Concerns e.Changes s s' where
  one := (separates_concerns h e).one
  others := fun u _ => by rw [husers]
  changed := fun u hu _ => ⟨u, husers ▸ hu, e.changes_refl u⟩

/-- Every event, whatever its outcome, is confined to the user that it is about. -/
theorem confined_step (h : s.Consistent) (hs : st.store = some s) (e : Event) :
    ∃ s', (step st e).store = some s' ∧ Confined e.Concerns e.Changes s s' := by
  cases e with
  | startup settings id salt =>
    obtain ⟨r, s', ns, hboot, hstore⟩ := Startup.exists_store_startup h settings id salt []
    refine ⟨s', ?_, confined_of_touched (h.writes (Store.writes_ensureRoles s _))
      (Store.ensureRoles_users s _) (touched_bootstrapped hboot)⟩
    rw [step, Startup.run, hs, ← hstore]
    rfl
  | ensureRoles slugs =>
    refine ⟨_, store_after hs, confined_of_users_eq h _ ?_⟩
    rw [Action.exec_ensureRoles]
    exact Store.ensureRoles_users s slugs
  | seedRoles settings slugs =>
    refine ⟨_, store_after hs, confined_of_users_eq h _ ?_⟩
    rw [Command.seedRoles, Action.exec_ensureRoles]
    exact Store.ensureRoles_users s _
  | create draft => exact ⟨_, store_after hs, confined_of_touched h rfl (touched_create draft)⟩
  | reconcile policy id stale a =>
    obtain ⟨r, s', ns, hr⟩ := Reconcile.exists_reconciled policy id stale a s
    refine ⟨_, store_after hs, confined_of_touched h rfl ?_⟩
    rw [hr.exec h]
    exact hr.touched
  | sync id patch =>
    refine ⟨_, store_after hs, ?_⟩
    rcases store_syncById s id patch [] with hstore | ⟨u, hu, rfl, hstore⟩
    · rw [hstore]
      exact confined_of_users_eq h _ rfl
    · refine confined_of_touched h rfl ?_
      rw [hstore]
      exact Reconcile.touched_syncAttributes h hu patch []
  | directoryLogin d tables email password policy id =>
    rw [step]
    split
    · rename_i a hauth
      obtain ⟨r, s', ns, hr⟩ := Reconcile.exists_reconciled policy id 0 a s
      refine ⟨_, store_after hs, confined_of_touched h rfl ?_⟩
      rw [hr.exec h]
      exact hr.touched.imp fun u hu => ⟨a, hauth, hu⟩
    · exact ⟨s, hs, confined_of_users_eq h _ rfl⟩
  | request c r =>
    by_cases hr : IsLogin r
    · obtain ⟨result, s', ns, hanswered⟩ := Service.Login.exists_answered c r st s
      refine ⟨s', ?_, confined_of_touched h rfl (hanswered.touched.imp fun u hu => ⟨hr, hu⟩)⟩
      rw [step, Service.Login.handle_of_isLogin hr]
      exact (hanswered.answer_eq h hs).2.1
    · refine ⟨s, ?_, confined_of_users_eq h _ rfl⟩
      rw [step, Service.Login.handle_of_not_isLogin hr]
      exact hs
  | limitLifted => exact ⟨s, hs, confined_of_users_eq h _ rfl⟩

/-! ### Runs -/

/-- From a store that meets its constraints on, no event of a run removes a user or a role, and none
changes a role or any column of a user but the names and the role. At any time, the next event
leaves all users alone but one that it is about, and of that one it changes the names and perhaps
the role. -/
theorem identity_of_run (h : s.Consistent) (hs : st.store = some s) (events : List Event) :
    ∃ s', (events.foldl step st).store = some s' ∧ s.roles <+: s'.roles ∧
      (∀ u ∈ s.users, ∃ v, s'.findById u.id = some v ∧ SameIdentity u v) ∧
      ∀ e, ∃ s'', (step (events.foldl step st) e).store = some s'' ∧
        Confined e.Concerns e.Changes s' s'' := by
  obtain ⟨s', hs', hw⟩ := exists_foldl h hs events
  have hkeeps := h.keeps hw
  have hconsistent := h.writes hw
  refine ⟨s', hs', hkeeps.roles, fun u hu => ?_, confined_step hconsistent hs'⟩
  obtain ⟨v, hv, hsame⟩ := hkeeps.users u hu
  refine ⟨v, ?_, hsame⟩
  rw [← hsame.id]
  exact hconsistent.findById_of_mem hv

/-- A first login and a patch leave the user who was there before as it is identified. -/
theorem identity_of_run_office :
    let s := Reconcile.office
    let st : State := { store := some s }
    let events : List Event :=
      [.reconcile Reconcile.staffPolicy ⟨2⟩ 0 Reconcile.grace,
        .sync ⟨1⟩ ⟨some "Ada", none, none, none⟩]
    s.Consistent ∧ st.store = some s ∧
      ∃ s', (events.foldl step st).store = some s' ∧ s.roles <+: s'.roles ∧
        (∀ u ∈ s.users, ∃ v, s'.findById u.id = some v ∧ SameIdentity u v) ∧
        ∀ e, ∃ s'', (step (events.foldl step st) e).store = some s'' ∧
          Confined e.Concerns e.Changes s' s'' :=
  ⟨Reconcile.consistent_office, rfl, identity_of_run Reconcile.consistent_office rfl _⟩

end FederatedLogin.Run
