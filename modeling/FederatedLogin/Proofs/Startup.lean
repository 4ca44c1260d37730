import FederatedLogin.Proofs.Store.Execution
import FederatedLogin.Proofs.Store.Writes
import FederatedLogin.Startup

/-!
# What a start of the service does

A start makes sure of the wanted roles, and then there are four ways for the first user
(`Bootstrapped`): users are there already, there is no role for an administrator, the password
cannot be hashed, or the first user is created. The store has no reason to refuse it.
-/

namespace FederatedLogin.Startup

open Store (Consistent Writes)

variable {c : Settings} {id : Uuid} {salt : String} {s s' : Store} {r : Except Failure Unit}
  {ns : List Notice}

/-- The ways in which the first user is created, or not: the result, the store afterwards, and what
is reported. -/
inductive Bootstrapped (c : Settings) (id : Uuid) (salt : String) (s : Store) :
    Except Failure Unit → Store → List Notice → Prop
  | populated (users : s.users ≠ []) : Bootstrapped c id salt s (.ok ()) s []
  | noRole (users : s.users = []) (missing : s.roles.find? (·.slug == adminSlug) = none) :
      Bootstrapped c id salt s (.ok ()) s [.bootstrapSkipped]
  | noHash {role : Role} {refusal : Password.Refusal} (users : s.users = [])
      (found : s.roles.find? (·.slug == adminSlug) = some role)
      (unhashed : Password.hash salt c.adminPassword = .error refusal) :
      Bootstrapped c id salt s (.error (.password refusal)) s []
  | created {role : Role} {hash : String} (users : s.users = [])
      (found : s.roles.find? (·.slug == adminSlug) = some role)
      (hashed : Password.hash salt c.adminPassword = .ok hash) :
      Bootstrapped c id salt s (.ok ()) { s with users := [firstUser c id role hash] }
        [.bootstrapCreated c.adminEmail]

/-- Without other users, every user who holds a stored role can be stored. -/
theorem insert_of_users_eq_nil (c : Settings) (id : Uuid) (users : s.users = []) {role : Role}
    (hrole : role ∈ s.roles) (hash : String) :
    s.insert (firstUser c id role hash) =
      .ok { s with users := [firstUser c id role hash] } := by
  refine Store.insert_eq_ok_iff.mpr ⟨Store.holdsRole_iff.mpr ⟨role, hrole, rfl⟩, ?_, ?_⟩
  · rw [users]
    exact nofun
  · rw [users, List.nil_append]

/-- The first user is created, or not, as `Bootstrapped` says. -/
theorem Bootstrapped.exec (h : s.Consistent) (hb : Bootstrapped c id salt s r s' ns)
    (n : List Notice) : (bootstrapAdmin c id salt).exec ⟨s, n⟩ = (r, ⟨s', n ++ ns⟩) := by
  cases hb with
  | populated users => simp [bootstrapAdmin, users]
  | noRole users missing => simp [bootstrapAdmin, users, h.findRole_eq, missing]
  | noHash users found unhashed =>
    simp [bootstrapAdmin, users, h.findRole_eq, found, unhashed]
  | created users found hashed =>
    have hinsert := insert_of_users_eq_nil c id users (List.mem_of_find?_eq_some found)
    simp [bootstrapAdmin, users, h.findRole_eq, found, hashed, hinsert]

/-- There are no other ways. -/
theorem exists_bootstrapped (c : Settings) (id : Uuid) (salt : String) (s : Store) :
    ∃ r s' ns, Bootstrapped c id salt s r s' ns := by
  by_cases users : s.users = []
  swap
  · exact ⟨_, _, _, .populated users⟩
  rcases hfound : s.roles.find? (·.slug == adminSlug) with _ | role
  · exact ⟨_, _, _, .noRole users hfound⟩
  rcases hhash : Password.hash salt c.adminPassword with refusal | hash
  · exact ⟨_, _, _, .noHash users hfound hhash⟩
  · exact ⟨_, _, _, .created users hfound hhash⟩

theorem Bootstrapped.writes (hb : Bootstrapped c id salt s r s' ns) : Writes s s' := by
  cases hb with
  | populated | noRole | noHash => exact .refl
  | created users found =>
    exact Store.writes_insert (u := firstUser c id _ _) (Text.lower_lower c.adminEmail)
      (insert_of_users_eq_nil c id users (List.mem_of_find?_eq_some found) _)

/-- A start adds the missing roles, and then it creates the first user or not. -/
theorem exists_store_startup (h : s.Consistent) (c : Settings) (id : Uuid) (salt : String)
    (n : List Notice) : ∃ r s' ns, Bootstrapped c id salt (s.ensureRoles c.wantedRoles).1 r s' ns ∧
      ((startup c id salt).exec ⟨s, n⟩).2.store = s' := by
  obtain ⟨r, s', ns, hboot⟩ := exists_bootstrapped c id salt (s.ensureRoles c.wantedRoles).1
  refine ⟨r, s', ns, hboot, ?_⟩
  rw [startup, Action.exec_bind, Action.exec_ensureRoles]
  simp only [Action.exec_bind, hboot.exec (h.writes (Store.writes_ensureRoles s c.wantedRoles))]
  cases r <;> rfl

/-- A start only adds roles, and perhaps the first user. -/
theorem writes_startup (h : s.Consistent) (c : Settings) (id : Uuid) (salt : String)
    (n : List Notice) : Writes s ((startup c id salt).exec ⟨s, n⟩).2.store := by
  obtain ⟨r, s', ns, hboot, rfl⟩ := exists_store_startup h c id salt n
  exact (Store.writes_ensureRoles s c.wantedRoles).trans hboot.writes

end FederatedLogin.Startup
