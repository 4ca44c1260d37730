import FederatedLogin.Proofs.Store.Execution
import FederatedLogin.Proofs.Store.Seeding

/-!
# What seeding roles leaves

Making sure of the roles of some slugs adds those that are missing behind the stored roles
(`Seeds`): one role for each missing slug, in the order in which the slugs first occur. A repeated
slug adds nothing, since a role that was added before is seen by the look-ups that follow.

`ensureRoles_outcome` says so of every store and every list of slugs, and that seeding again, in
other portions or in another order changes nothing but the order of the rows.
-/

namespace FederatedLogin.Action

variable {ε : Type} {s : Store}

/-- What a list of slugs adds to a store: the store afterwards, and the roles that were added. -/
structure Seeds (s : Store) (list : List String) (s' : Store) (added : List Role) : Prop where
  /-- Stored roles stay as they are, and the added ones stand behind them. -/
  roles : s'.roles = s.roles ++ added
  users : s'.users = s.users
  created : ∀ r ∈ added, r = Role.ofSlug r.slug
  missing : ∀ slug, slug ∈ added.map (·.slug) ↔ slug ∈ list ∧ ∀ r ∈ s.roles, r.slug ≠ slug
  /-- No slug was added twice, and one that occurs earlier in the list was added earlier. -/
  order : (added.map (·.slug)).Pairwise fun slug later => list.idxOf slug < list.idxOf later

theorem seeds_ensureRoles (s : Store) (list : List String) :
    Seeds s list (s.ensureRoles list).1 (s.ensureRoles list).2 := by
  have hslugs : ((Store.missing s.slugs list).map Role.ofSlug).map (·.slug) =
      Store.missing s.slugs list := by
    rw [List.map_map]
    exact List.map_id _
  rw [Store.ensureRoles_eq]
  refine ⟨rfl, rfl, ?_, ?_, ?_⟩
  · intro r hr
    obtain ⟨slug, -, rfl⟩ := List.mem_map.mp hr
    rfl
  · intro slug
    have hnew : slug ∉ s.slugs ↔ ∀ r ∈ s.roles, r.slug ≠ slug := by
      rw [Store.mem_slugs]
      simp only [not_exists, not_and, ne_eq]
    rw [hslugs, Store.mem_missing, hnew]
  · rw [hslugs]
    exact Store.pairwise_missing s.slugs list

/-- What is reported of roles that were added. -/
def seedingNotices (added : List Role) : List Notice :=
  if added.isEmpty then [] else [.rolesCreated (added.map (·.slug))]

/-- After a seeding, the same slugs have nothing to add. -/
theorem exec_ensureRoles_again (s : Store) (list : List String) (n : List Notice) :
    (ensureRoles list : Action ε (List Role)).exec ⟨(s.ensureRoles list).1, n⟩ =
      (.ok [], ⟨(s.ensureRoles list).1, n⟩) := by
  have hstored : (s.ensureRoles list).1.ensureRoles list = ((s.ensureRoles list).1, []) :=
    Store.ensureRoles_of_stored fun slug hslug => Store.mem_slugs_ensureRoles.mpr (.inr hslug)
  rw [exec_ensureRoles, hstored]
  simp

/-- The store after two seedings is the one after seeding both lists at once. -/
theorem store_exec_ensureRoles_bind (s : Store) (list list' : List String) (n : List Notice) :
    ((ensureRoles list >>= fun _ => ensureRoles list' : Action ε (List Role)).exec
      ⟨s, n⟩).2.store = (s.ensureRoles (list ++ list')).1 := by
  rw [exec_bind, exec_ensureRoles]
  simp only [exec_ensureRoles]
  exact Store.ensureRoles_append s list list'

/-- Making sure of the roles of a list of slugs, with repeats or without, always succeeds. The
stored roles stay, and of the listed slugs exactly the missing ones get a role, each one role, in
the order in which they first occur; these roles are given back, and reported if there are any.
Making sure of the same slugs again gives nothing back, reports nothing and changes nothing. Two
lists one after the other lead to the same roles as both at once, and the other way round to the
same roles in another order. -/
theorem ensureRoles_outcome (s : Store) (list list' : List String) (n : List Notice) :
    ∃ s' added,
      (ensureRoles list : Action ε (List Role)).exec ⟨s, n⟩ =
        (.ok added, ⟨s', n ++ seedingNotices added⟩) ∧
      Seeds s list s' added ∧
      (∀ n', (ensureRoles list : Action ε (List Role)).exec ⟨s', n'⟩ = (.ok [], ⟨s', n'⟩)) ∧
      ((ensureRoles list >>= fun _ => ensureRoles list' : Action ε (List Role)).exec
          ⟨s, n⟩).2.store =
        ((ensureRoles (list ++ list') : Action ε (List Role)).exec ⟨s, n⟩).2.store ∧
      ((ensureRoles list' >>= fun _ => ensureRoles list : Action ε (List Role)).exec
          ⟨s, n⟩).2.store.roles.Perm
        ((ensureRoles (list ++ list') : Action ε (List Role)).exec ⟨s, n⟩).2.store.roles := by
  refine ⟨_, _, exec_ensureRoles list s n, seeds_ensureRoles s list,
    exec_ensureRoles_again s list, ?_, ?_⟩
  · rw [store_exec_ensureRoles_bind, exec_ensureRoles]
  · rw [store_exec_ensureRoles_bind, exec_ensureRoles]
    exact Store.perm_roles_ensureRoles s list' list

/-- A slug that is listed twice gets one role. -/
example : (Store.ensureRoles {} ["org_admin", "viewer", "org_admin"]).2 =
    [⟨"org_admin", "Org Admin"⟩, ⟨"viewer", "Viewer"⟩] := by decide +kernel

end FederatedLogin.Action
