import FederatedLogin.Proofs.Store.Consistency
import Mathlib.Logic.Relation

/-!
# The writes of the program

Whatever the program does to a store is made of three kinds of `Write`: it adds a role, it adds a
user whose email is in lower case, or it gives a stored user other names and another stored role.
Each of them keeps a store consistent and canonical, and so do any number of them in a row
(`Canonical.writes`).

What an operation writes is said with `Writes` where the operation is described; an invariant of
stores is then checked for the three kinds of write, and not for each operation.
-/

namespace FederatedLogin.Store

/-- A user with other names and another role; all else stays. -/
def renewed (u : User) (firstName lastName slug : String) : User :=
  { u with firstName := firstName, lastName := lastName, role := slug }

/-- One write of the program. -/
inductive Write (s : Store) : Store → Prop
  | role {r : Role} (new : ∀ q ∈ s.roles, q.slug ≠ r.slug) :
      Write s { s with roles := s.roles ++ [r] }
  | user {u : User} {s' : Store} (lower : Text.lower u.email = u.email)
      (inserted : s.insert u = .ok s') : Write s s'
  | change (u : User) (firstName lastName slug : String) (stored : u ∈ s.users)
      (held : ∃ r ∈ s.roles, r.slug = slug) :
      Write s (s.replace (renewed u firstName lastName slug))

/-- Any number of writes. -/
abbrev Writes : Store → Store → Prop := Relation.ReflTransGen Write

variable {s s' : Store} {u : User}

/-! ### What a write keeps -/

/-- A stored user can always be renewed. -/
theorem Consistent.update_renewed (h : s.Consistent) (hu : u ∈ s.users)
    {firstName lastName slug : String} (held : ∃ r ∈ s.roles, r.slug = slug) :
    s.update (renewed u firstName lastName slug) =
      .ok (s.replace (renewed u firstName lastName slug)) :=
  h.update_eq_replace hu rfl rfl (holdsRole_iff.mpr held)

theorem Consistent.write (h : s.Consistent) (hw : Write s s') : s'.Consistent := by
  cases hw with
  | role new => exact h.addRole new
  | user _ inserted => exact h.insert inserted
  | change u first last slug stored held => exact h.update (h.update_renewed stored held)

theorem Canonical.write (h : s.Canonical) (hw : Write s s') : s'.Canonical := by
  cases hw with
  | role new => exact ⟨h.addRole new, h.emails⟩
  | user lower inserted => exact h.insert lower inserted
  | change u first last slug stored held =>
    exact h.update (u := renewed u first last slug) (h.emails u stored)
      (h.update_renewed stored held)

theorem Consistent.writes (h : s.Consistent) (hw : Writes s s') : s'.Consistent := by
  induction hw with
  | refl => exact h
  | tail _ hlast ih => exact ih.write hlast

theorem Canonical.writes (h : s.Canonical) (hw : Writes s s') : s'.Canonical := by
  induction hw with
  | refl => exact h
  | tail _ hlast ih => exact ih.write hlast

/-! ### Writes of single operations -/

theorem writes_insert (lower : Text.lower u.email = u.email) (hi : s.insert u = .ok s') :
    Writes s s' := .single (.user lower hi)

/-- A role is added only if its slug is new. -/
theorem writes_ensureRole (acc : Store × List Role) (slug : String) :
    Writes acc.1 (ensureRole acc slug).1 := by
  rw [ensureRole]
  split
  · exact .refl
  · rename_i hnew
    simp only [List.any_eq_true, beq_iff_eq, not_exists, not_and] at hnew
    exact .single (.role hnew)

theorem writes_ensureRoles (s : Store) (slugs : List String) :
    Writes s (s.ensureRoles slugs).1 := by
  -- The fold carries along what it has added, so the claim is about any such start of it.
  suffices hfold : ∀ (slugs : List String) (acc : Store × List Role),
      Writes acc.1 (slugs.foldl ensureRole acc).1 from hfold slugs (s, [])
  intro slugs
  induction slugs with
  | nil => exact fun _ => .refl
  | cons slug slugs ih => exact fun acc => (writes_ensureRole acc slug).trans (ih _)

end FederatedLogin.Store
