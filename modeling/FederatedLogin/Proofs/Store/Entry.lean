import FederatedLogin.Proofs.Store.Identity

/-!
# Entering one user

What an operation on one user leaves is the store with that user entered (`put`): in the place of
the row with the same identifier, or at the end. Users with different identifiers can be entered in
either order (`perm_put_put`), a look-up for somebody else does not notice an entry (`find?_put`),
and it makes no difference which identifiers there are, as long as they are told apart
(`relabelled_put`).
-/

namespace FederatedLogin.Store

variable {s : Store} {u v w : User} {ρ : Uuid → Uuid}

/-- The store with a user in the place of the one with the same identifier, or else at the end. -/
def put (s : Store) (u : User) : Store :=
  if s.users.any (·.id == u.id) then s.replace u else { s with users := s.users ++ [u] }

/-- No stored user has the identifier. -/
def Fresh (s : Store) (id : Uuid) : Prop := ∀ u ∈ s.users, u.id ≠ id

instance (s : Store) (id : Uuid) : Decidable (s.Fresh id) :=
  inferInstanceAs (Decidable (∀ u ∈ s.users, u.id ≠ id))

/-- Entering a user whose identifier is stored replaces the row. -/
theorem put_of_mem (hv : v ∈ s.users) (hid : v.id = u.id) : s.put u = s.replace u := by
  have hany : s.users.any (·.id == u.id) = true := List.any_eq_true.mpr ⟨v, hv, beq_iff_eq.mpr hid⟩
  rw [put, if_pos hany]

/-- Entering a user with a fresh identifier adds a row at the end. -/
theorem put_of_fresh (new : s.Fresh u.id) : s.put u = { s with users := s.users ++ [u] } := by
  rw [put, if_neg]
  intro hany
  obtain ⟨v, hv, hid⟩ := List.any_eq_true.mp hany
  exact new v hv (beq_iff_eq.mp hid)

/-- Either the identifier of a user is stored, or it is fresh. -/
theorem stored_or_fresh (s : Store) (id : Uuid) : (∃ v ∈ s.users, v.id = id) ∨ s.Fresh id := by
  by_cases h : ∃ v ∈ s.users, v.id = id
  · exact .inl h
  · exact .inr fun v hv hid => h ⟨v, hv, hid⟩

@[simp]
theorem put_roles (s : Store) (u : User) : (s.put u).roles = s.roles := by
  rw [put]
  split <;> rfl

/-- Entering a stored user as it is changes nothing. -/
theorem Consistent.put_self (h : s.Consistent) (hu : u ∈ s.users) : s.put u = s := by
  rw [put_of_mem hu rfl, h.replace_self hu]

/-- The rows of other identifiers are those of before. -/
theorem mem_put (hw : w ∈ (s.put u).users) : w = u ∨ w ∈ s.users ∧ w.id ≠ u.id := by
  rcases stored_or_fresh s u.id with ⟨v, hv, hid⟩ | new
  · rw [put_of_mem hv hid] at hw
    exact mem_replace hw
  · rw [put_of_fresh new] at hw
    rcases List.mem_append.mp hw with hw | hw
    · exact .inr ⟨hw, new w hw⟩
    · exact .inl (List.mem_singleton.mp hw)

theorem self_mem_put (s : Store) (u : User) : u ∈ (s.put u).users := by
  rcases stored_or_fresh s u.id with ⟨v, hv, hid⟩ | new
  · rw [put_of_mem hv hid]
    exact self_mem_replace hv hid
  · rw [put_of_fresh new]
    exact List.mem_append_right _ (List.mem_singleton_self u)

/-- Only the last of two entries under one identifier counts. -/
theorem put_put (hid : w.id = u.id) : (s.put u).put w = s.put w := by
  rw [put_of_mem (self_mem_put s u) hid.symm]
  rcases stored_or_fresh s u.id with ⟨v, hv, hvu⟩ | new
  · rw [put_of_mem hv hvu, put_of_mem hv (hvu.trans hid.symm), replace_replace hid]
  · have new' : s.Fresh w.id := hid ▸ new
    rw [put_of_fresh new, put_of_fresh new', replace_append new hid]

/-! ### Two entries -/

/-- Another identifier stays fresh. -/
theorem Fresh.put {id : Uuid} (new : s.Fresh id) (hne : u.id ≠ id) : (s.put u).Fresh id := by
  intro w hw
  rcases mem_put hw with rfl | ⟨hw, -⟩
  · exact hne
  · exact new w hw

/-- Replacements of different rows can be exchanged. -/
theorem replace_comm (hne : u.id ≠ v.id) : (s.replace u).replace v = (s.replace v).replace u := by
  simp only [replace, List.map_map]
  congr 1
  refine List.map_congr_left fun w _ => ?_
  simp only [Function.comp_apply]
  by_cases hwu : w.id = u.id
  · have hwv : w.id ≠ v.id := fun h => hne (hwu.symm.trans h)
    simp [hwu, hne]
  · by_cases hwv : w.id = v.id
    · simp [hwv, Ne.symm hne]
    · simp [hwu, hwv]

/-- Users of different identifiers can be entered in either order, but for the order of new rows. -/
theorem perm_put_put (hne : u.id ≠ v.id) :
    ((s.put u).put v).users.Perm ((s.put v).put u).users := by
  rcases stored_or_fresh s u.id with ⟨x, hx, hxu⟩ | newU
  · have hxv : x ∈ (s.put v).users := by
      rcases stored_or_fresh s v.id with ⟨y, hy, hyv⟩ | newV
      · rw [put_of_mem hy hyv]
        exact mem_replace_of_ne hx fun h => hne (hxu.symm.trans h)
      · rw [put_of_fresh newV]
        exact List.mem_append_left _ hx
    rw [put_of_mem hx hxu, put_of_mem hxv hxu]
    rcases stored_or_fresh s v.id with ⟨y, hy, hyv⟩ | newV
    · have hyu : y ∈ (s.replace u).users :=
        mem_replace_of_ne hy fun h => hne (h.symm.trans hyv)
      rw [put_of_mem hy hyv, put_of_mem hyu hyv, replace_comm hne]
    · have newV' : (s.replace u).Fresh v.id := put_of_mem hx hxu ▸ newV.put hne
      rw [put_of_fresh newV, put_of_fresh newV']
      simp [replace, Ne.symm hne]
  · rcases stored_or_fresh s v.id with ⟨y, hy, hyv⟩ | newV
    · have hyu : y ∈ (s.put u).users := by
        rw [put_of_fresh newU]
        exact List.mem_append_left _ hy
      have newU' : (s.replace v).Fresh u.id := put_of_mem hy hyv ▸ newU.put (Ne.symm hne)
      rw [put_of_mem hyu hyv, put_of_mem hy hyv, put_of_fresh newU, put_of_fresh newU']
      simp [replace, hne]
    -- Two new rows stand in the order in which they were added.
    · rw [put_of_fresh (newV.put hne), put_of_fresh (newU.put (Ne.symm hne)), put_of_fresh newU,
        put_of_fresh newV]
      simp only [List.append_assoc]
      exact (List.Perm.swap v u []).append_left s.users

/-- A look-up for somebody else does not notice an entry. -/
theorem find?_put {p : User → Bool} (hu : p u = false)
    (hold : ∀ w ∈ s.users, w.id = u.id → p w = false) :
    (s.put u).users.find? p = s.users.find? p := by
  rcases stored_or_fresh s u.id with ⟨v, hv, hvu⟩ | new
  · rw [put_of_mem hv hvu, replace]
    generalize s.users = users at hold
    induction users with
    | nil => rfl
    | cons w users ih =>
      have hrest := ih fun x hx => hold x (List.mem_cons_of_mem w hx)
      by_cases hw : w.id = u.id
      · have hpw := hold w List.mem_cons_self hw
        simp only [List.map_cons, if_pos hw, List.find?_cons, hu, hpw]
        exact hrest
      · simp only [List.map_cons, if_neg hw, List.find?_cons]
        rw [hrest]
  · rw [put_of_fresh new, List.find?_append, List.find?_singleton, hu]
    simp

/-! ### Other identifiers -/

/-- The user under another identifier. -/
def relabel (ρ : Uuid → Uuid) (u : User) : User := { u with id := ρ u.id }

/-- The store with its users under other identifiers. -/
def relabelled (ρ : Uuid → Uuid) (s : Store) : Store := { s with users := s.users.map (relabel ρ) }

@[simp]
theorem relabel_same : relabel (fun id => id) = id := rfl

/-- A user who keeps the identifier is the same user. -/
theorem relabel_eq_self (fixed : ρ u.id = u.id) : relabel ρ u = u := by
  rw [relabel, fixed]

/-- A renaming that fixes the stored identifiers changes nothing. -/
theorem relabelled_eq_self (fixed : ∀ u ∈ s.users, ρ u.id = u.id) : s.relabelled ρ = s := by
  have hsame : s.users.map (relabel ρ) = s.users.map id :=
    List.map_congr_left fun u hu => relabel_eq_self (fixed u hu)
  rw [relabelled, hsame, List.map_id]

/-- Entering a user does not depend on what the identifiers are. -/
theorem relabelled_put (apart : ∀ v ∈ s.users, ρ v.id = ρ u.id → v.id = u.id) :
    (s.put u).relabelled ρ = (s.relabelled ρ).put (relabel ρ u) := by
  rcases stored_or_fresh s u.id with ⟨v, hv, hid⟩ | new
  · have hv' : relabel ρ v ∈ (s.relabelled ρ).users := List.mem_map_of_mem hv
    have hid' : (relabel ρ v).id = (relabel ρ u).id := congrArg ρ hid
    rw [put_of_mem hv hid, put_of_mem hv' hid']
    simp only [relabelled, replace, List.map_map]
    congr 1
    refine List.map_congr_left fun w hw => ?_
    simp only [Function.comp_apply]
    by_cases hwu : w.id = u.id
    · have hlabels : (relabel ρ w).id = (relabel ρ u).id := congrArg ρ hwu
      rw [if_pos hwu, if_pos hlabels]
    · have hlabels : (relabel ρ w).id ≠ (relabel ρ u).id := fun h => hwu (apart w hw h)
      rw [if_neg hwu, if_neg hlabels]
  · have new' : (s.relabelled ρ).Fresh (relabel ρ u).id := by
      intro w hw hid
      obtain ⟨v, hv, rfl⟩ := List.mem_map.mp hw
      exact new v hv (apart v hv hid)
    rw [put_of_fresh new, put_of_fresh new']
    simp [relabelled]

/-! ### At most one entry -/

/-- The store with a user entered, if there is one to enter. -/
def enter (s : Store) (row : Option User) : Store := row.elim s s.put

variable {row row' : Option User}

@[simp]
theorem enter_roles (s : Store) (row : Option User) : (s.enter row).roles = s.roles := by
  cases row with
  | none => rfl
  | some u => exact put_roles s u

theorem mem_enter (hw : w ∈ (s.enter row).users) : w ∈ row ∨ w ∈ s.users := by
  cases row with
  | none => exact .inr hw
  | some u =>
    rcases mem_put hw with rfl | ⟨hw, -⟩
    · exact .inl rfl
    · exact .inr hw

/-- An identifier stays fresh unless it is entered. -/
theorem Fresh.enter {id : Uuid} (new : s.Fresh id) (hne : ∀ u ∈ row, u.id ≠ id) :
    (s.enter row).Fresh id := by
  intro w hw
  rcases mem_enter hw with hw | hw
  · exact hne w hw
  · exact new w hw

/-- Entering two different users in either order gives the same rows. -/
theorem perm_enter_enter (hne : ∀ u ∈ row, ∀ v ∈ row', u.id ≠ v.id) :
    ((s.enter row).enter row').users.Perm ((s.enter row').enter row).users := by
  rcases row with _ | u
  · exact .refl _
  rcases row' with _ | v
  · exact .refl _
  exact perm_put_put (hne u rfl v rfl)

/-- A search that neither the entered user nor the replaced one answers is not affected. -/
theorem find?_enter {p : User → Bool} (hrow : ∀ u ∈ row, p u = false)
    (hold : ∀ u ∈ row, ∀ w ∈ s.users, w.id = u.id → p w = false) :
    (s.enter row).users.find? p = s.users.find? p := by
  cases row with
  | none => rfl
  | some u => exact find?_put (hrow u rfl) (hold u rfl)

/-- Entering at most one user does not depend on what the identifiers are. -/
theorem relabelled_enter (apart : ∀ u ∈ row, ∀ v ∈ s.users, ρ v.id = ρ u.id → v.id = u.id) :
    (s.enter row).relabelled ρ = (s.relabelled ρ).enter (row.map (relabel ρ)) := by
  cases row with
  | none => rfl
  | some u => exact relabelled_put (apart u rfl)

end FederatedLogin.Store
