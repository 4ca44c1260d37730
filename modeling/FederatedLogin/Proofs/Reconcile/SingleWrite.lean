import FederatedLogin.Proofs.Store.Execution
import FederatedLogin.Proofs.Store.Writes
import FederatedLogin.Reconcile

/-!
# Operations of one write

Creating a user and patching one make at most one write each. The patch of a stored user always
succeeds, and changes names only (`exec_syncAttributes`).
-/

namespace FederatedLogin.Reconcile

open Store (Consistent Writes)

variable {s : Store} {u : User}

theorem exec_create (d : Draft) (s : Store) (n : List Notice) :
    (create d).exec ⟨s, n⟩ = match s.insertDraft { d with email := Text.lower d.email } with
      | .ok (u, s') => (.ok u, ⟨s', n⟩)
      | .error _ => (.error (.duplicateEmail (Text.lower d.email)), ⟨s, n⟩) := by
  rcases h : s.insertDraft { d with email := Text.lower d.email } with f | ⟨u, s'⟩ <;>
    simp [create, h, Except.map]

/-- A new user has the draft's email in lower case. -/
theorem writes_create (d : Draft) (n : List Notice) :
    Writes s ((create d).exec ⟨s, n⟩).2.store := by
  rw [exec_create]
  rcases h : s.insertDraft { d with email := Text.lower d.email } with f | ⟨u, s'⟩
  · exact .refl
  · obtain ⟨huser, hinsert⟩ := Store.insertDraft_eq_ok h
    refine Store.writes_insert ?_ hinsert
    rw [Store.email_of_user? huser]
    exact Text.lower_lower d.email

/-- What a patch reports: an email that is not the known one. -/
def patchNotices (u : User) (patch : AttributePatch) : List Notice :=
  match patch.email with
  | none => []
  | some email =>
    if !email.isEmpty && Text.lower email != Text.lower u.email then
      [.emailChangeIgnored u.id u.email email]
    else []

theorem exec_syncAttributes (h : s.Consistent) (hu : u ∈ s.users) (patch : AttributePatch)
    (n : List Notice) :
    (syncAttributes u patch).exec ⟨s, n⟩ =
      (.ok (patched u patch), ⟨s.replace (patched u patch), n ++ patchNotices u patch⟩) := by
  have hupdate : s.update (patched u patch) = .ok (s.replace (patched u patch)) :=
    h.update_renewed hu (Store.holdsRole_iff.mp (h.held u hu))
  rw [patchNotices]
  rcases hemail : patch.email with _ | email
  · simp [syncAttributes, hemail, hupdate]
  · by_cases hnew : (!email.isEmpty && Text.lower email != Text.lower u.email) = true
    · simp [syncAttributes, hemail, hupdate, hnew]
    · simp [syncAttributes, hemail, hupdate, hnew]

theorem writes_syncAttributes (h : s.Consistent) (hu : u ∈ s.users) (patch : AttributePatch)
    (n : List Notice) : Writes s ((syncAttributes u patch).exec ⟨s, n⟩).2.store := by
  rw [exec_syncAttributes h hu]
  exact .single (.change u _ _ u.role hu (Store.holdsRole_iff.mp (h.held u hu)))

end FederatedLogin.Reconcile
