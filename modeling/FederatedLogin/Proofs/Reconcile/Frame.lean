import FederatedLogin.Proofs.Directory.Lookup
import FederatedLogin.Proofs.Login.Answer
import FederatedLogin.Proofs.Reconcile.SingleWrite
import FederatedLogin.Proofs.Store.Identity

/-!
# The one user that an operation is about

A reconciliation touches the user of the asserted email only (`Reconciled.touched`), and a patch the
user that it is for (`touched_syncAttributes`). A login reconciles what the directory vouches for,
and so it touches the user of the submitted email only (`Service.Login.Answered.touched`).
-/

namespace FederatedLogin

open Store (Consistent Renewed Renamed Touched answers)

namespace Reconcile

variable {p : Policy} {id : Uuid} {stale : Nat} {a : Assertion} {s s' : Store} {u : User}
  {r : Except Failure User} {ns : List Notice}

/-- The first stage touches the asserted user only. -/
theorem Account.touched (ha : Account p id stale a s r s' ns) :
    Touched (fun u => answers a.normalizedEmail u = true) Renewed s s' := by
  cases ha with
  | disabled | noDefaultRole | lost => exact .nothing
  | known found | raced _ _ _ _ found =>
    obtain ⟨hu, hanswers⟩ := seen_eq_some found
    exact .changed hu hanswers ⟨rfl, rfl, rfl, rfl, rfl, rfl⟩ ⟨_, _, _, rfl⟩
  | created _ _ _ inserted =>
    obtain ⟨-, hfree, rfl⟩ := Store.insert_eq_ok_iff.mp inserted
    exact .added (answers_newUser id _ a) fun v hv hid =>
      (Store.clashes_eq_false_iff.mp (hfree v hv)).1 hid.symm

/-- A reconciliation touches the asserted user only. What its two stages write is one change or one
new user. -/
theorem Reconciled.touched (hr : Reconciled p id stale a s r s' ns) :
    Touched (fun u => answers a.normalizedEmail u = true) Renewed s s' := by
  cases hr with
  | noAccount => exact .nothing
  | account account roleStep =>
    rcases roleStep.eq_withRole with ⟨rfl, -⟩ | ⟨role, -, -, rfl⟩
    · exact account.touched
    cases account with
    | known found | raced _ _ _ _ found =>
      obtain ⟨hu, hanswers⟩ := seen_eq_some found
      rw [Store.replace_replace (withRole_id _ _)]
      exact .changed hu hanswers ⟨rfl, rfl, rfl, rfl, rfl, rfl⟩ ⟨_, _, _, rfl⟩
    | @created defaultRole _ _ _ _ inserted =>
      obtain ⟨-, hfree, rfl⟩ := Store.insert_eq_ok_iff.mp inserted
      have new : ∀ v ∈ s.users, v.id ≠ (newUser id defaultRole a).id := fun v hv hid =>
        (Store.clashes_eq_false_iff.mp (hfree v hv)).1 hid.symm
      rw [Store.replace_append new (withRole_id _ _)]
      exact .added (answers_newUser id _ a) new

/-- A patch changes the names of the user that it is for. -/
theorem touched_syncAttributes (h : s.Consistent) (hu : u ∈ s.users) (patch : AttributePatch)
    (n : List Notice) :
    Touched (fun v => v.id = u.id) Renamed s ((syncAttributes u patch).exec ⟨s, n⟩).2.store := by
  rw [exec_syncAttributes h hu]
  exact .changed hu rfl ⟨rfl, rfl, rfl, rfl, rfl, rfl⟩ ⟨_, _, rfl⟩

end Reconcile

namespace Service.Login

variable {c : Context} {r : Http.Request} {st : State} {password : String} {v : Verdict}
  {s s' : Store} {ns : List Notice}

theorem answers_lower (email : String) : answers (Text.lower email) = answers email := by
  funext u
  rw [answers, answers, Text.lower_lower]

/-- A login touches the user of the submitted email only. -/
theorem Found.touched {setup : Directory.Setup} {result : Except Unhandled (Option User)}
    (asked : ask c setup (submittedEmail r) password = .ok v)
    (hf : Found c (submittedEmail r) password s v result s' ns) :
    Touched (fun u => answers (submittedEmail r) u = true) Renewed s s' := by
  cases hf with
  | own | noOwn | broken => exact .nothing
  | vouched done | refused done | failed done =>
    obtain ⟨_, _, d, rfl, hauth⟩ := ask_eq_vouched.mp asked
    have hemail := Directory.normalizedEmail_of_authenticate hauth
    rw [submittedEmail, ← answers_lower, ← hemail]
    exact done.touched

theorem Attempted.touched {setup : Directory.Setup} {result : Except Unhandled (Option Grant)}
    (asked : ask c setup (submittedEmail r) password = .ok v)
    (ha : Attempted c (submittedEmail r) password s v result s' ns) :
    Touched (fun u => answers (submittedEmail r) u = true) Renewed s s' := by
  cases ha with
  | failed found | nobody found | disabled found | noToken found | granted found =>
    exact found.touched asked

theorem Answered.touched {result : Except Unhandled Http.Response}
    (ha : Answered c r st s result s' ns) :
    Touched (fun u => answers (submittedEmail r) u = true) Renewed s s' := by
  cases ha with
  | noSetup | badForm | tooMany | unasked => exact .nothing
  | failed _ _ _ asked tried | answered _ _ _ asked tried => exact tried.touched asked

end Service.Login

end FederatedLogin
