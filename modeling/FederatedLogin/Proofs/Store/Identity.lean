import FederatedLogin.Proofs.Store.Writes

/-!
# What never changes in a store

Whatever is written, every row stays (`Consistent.keeps`): roles as they are, and users with their
`SameIdentity`, which is every column but the names and the role.

Operations on one user leave all other rows alone. `Touched` lists what they can do to a store, and
`Touched.confined` says what follows for its rows.
-/

namespace FederatedLogin.Store

variable {s s' s'' : Store} {u v w : User} {concerned : User → Prop} {change : User → User → Prop}

/-! ### Rows that stay -/

/-- All columns are the same but the names and the role. -/
structure SameIdentity (u v : User) : Prop where
  id : v.id = u.id
  email : v.email = u.email
  hashedPassword : v.hashedPassword = u.hashedPassword
  isActive : v.isActive = u.isActive
  provider : v.provider = u.provider
  externalId : v.externalId = u.externalId

theorem SameIdentity.refl (u : User) : SameIdentity u u := ⟨rfl, rfl, rfl, rfl, rfl, rfl⟩

theorem SameIdentity.trans (huv : SameIdentity u v) (hvw : SameIdentity v w) :
    SameIdentity u w where
  id := hvw.id.trans huv.id
  email := hvw.email.trans huv.email
  hashedPassword := hvw.hashedPassword.trans huv.hashedPassword
  isActive := hvw.isActive.trans huv.isActive
  provider := hvw.provider.trans huv.provider
  externalId := hvw.externalId.trans huv.externalId

/-- Names and role are no part of the identity. -/
theorem sameIdentity_renewed (u : User) (firstName lastName slug : String) :
    SameIdentity u (renewed u firstName lastName slug) := ⟨rfl, rfl, rfl, rfl, rfl, rfl⟩

/-- At most the names and the role differ. -/
def Renewed (u v : User) : Prop :=
  ∃ firstName lastName slug, v = renewed u firstName lastName slug

/-- At most the names differ. -/
def Renamed (u v : User) : Prop := ∃ firstName lastName, v = renewed u firstName lastName u.role

theorem renewed_refl (u : User) : Renewed u u := ⟨u.firstName, u.lastName, u.role, rfl⟩

theorem renamed_refl (u : User) : Renamed u u := ⟨u.firstName, u.lastName, rfl⟩

/-- Every row of a store is in another one, with its identity. -/
structure Keeps (s s' : Store) : Prop where
  roles : s.roles <+: s'.roles
  users : ∀ u ∈ s.users, ∃ v ∈ s'.users, SameIdentity u v

theorem Keeps.refl (s : Store) : Keeps s s := ⟨List.prefix_rfl, fun u hu => ⟨u, hu, .refl u⟩⟩

theorem Keeps.trans (h : Keeps s s') (h' : Keeps s' s'') : Keeps s s'' := by
  refine ⟨h.roles.trans h'.roles, fun u hu => ?_⟩
  obtain ⟨v, hv, huv⟩ := h.users u hu
  obtain ⟨w, hw, hvw⟩ := h'.users v hv
  exact ⟨w, hw, huv.trans hvw⟩

/-- One write removes no row and changes no identity. -/
theorem Consistent.keeps_write (h : s.Consistent) (hw : Write s s') : Keeps s s' := by
  cases hw with
  | role new => exact ⟨List.prefix_append _ _, (Keeps.refl s).users⟩
  | user _ inserted =>
    obtain ⟨-, -, rfl⟩ := insert_eq_ok_iff.mp inserted
    exact ⟨List.prefix_rfl, fun v hv => ⟨v, List.mem_append_left _ hv, .refl v⟩⟩
  | change u first last slug stored held =>
    refine ⟨List.prefix_rfl, fun v hv => ?_⟩
    by_cases hid : v.id = u.id
    · obtain rfl := h.eq_of_id_eq hv stored hid
      exact ⟨_, self_mem_replace hv rfl, sameIdentity_renewed v first last slug⟩
    · exact ⟨v, mem_replace_of_ne hv hid, .refl v⟩

/-- No number of writes removes a row or changes what identifies it. -/
theorem Consistent.keeps (h : s.Consistent) (hw : Writes s s') : Keeps s s' := by
  induction hw with
  | refl => exact .refl s
  | tail hbefore hlast ih => exact ih.trans ((h.writes hbefore).keeps_write hlast)

/-! ### Operations on one user -/

/-- Of the users of two stores, at most one differs: a user of those that are concerned, who has
changed in a certain way or is new. -/
structure Confined (concerned : User → Prop) (change : User → User → Prop) (s s' : Store) :
    Prop where
  one : ∀ u ∈ s.users, ∀ v ∈ s.users, concerned u → concerned v → u = v
  others : ∀ u, ¬concerned u → (u ∈ s'.users ↔ u ∈ s.users)
  changed : ∀ u ∈ s.users, concerned u → ∃ v ∈ s'.users, change u v

/-- What an operation on one user leaves of a store. -/
inductive Touched (concerned : User → Prop) (change : User → User → Prop) (s : Store) :
    Store → Prop
  | nothing : Touched concerned change s s
  | changed {u v : User} (stored : u ∈ s.users) (isConcerned : concerned u)
      (identity : SameIdentity u v) (allowed : change u v) :
      Touched concerned change s (s.replace v)
  | added {u : User} (isConcerned : concerned u) (new : ∀ v ∈ s.users, v.id ≠ u.id) :
      Touched concerned change s { s with users := s.users ++ [u] }

theorem Touched.imp {concerned' : User → Prop} (himp : ∀ u, concerned u → concerned' u)
    (ht : Touched concerned change s s') : Touched concerned' change s s' := by
  cases ht with
  | nothing => exact .nothing
  | changed stored isConcerned identity allowed =>
    exact .changed stored (himp _ isConcerned) identity allowed
  | added isConcerned new => exact .added (himp _ isConcerned) new

/-- Users of one identity are concerned alike, and at most one stored user is. -/
structure Separates (concerned : User → Prop) (s : Store) : Prop where
  alike : ∀ u v, SameIdentity u v → concerned u → concerned v
  one : ∀ u ∈ s.users, ∀ v ∈ s.users, concerned u → concerned v → u = v

/-- An operation on one user is confined to it. -/
theorem Touched.confined (h : s.Consistent) (hc : Separates concerned s)
    (hrefl : ∀ u, change u u) (ht : Touched concerned change s s') :
    Confined concerned change s s' := by
  refine ⟨hc.one, fun v hv => ?_, fun v hv hconcerned => ?_⟩
  · cases ht with
    | nothing => exact Iff.rfl
    | @changed u w stored isConcerned identity =>
      constructor
      · intro hmem
        rcases mem_replace hmem with rfl | ⟨hmem, -⟩
        · exact absurd (hc.alike _ _ identity isConcerned) hv
        · exact hmem
      · intro hmem
        refine mem_replace_of_ne hmem fun hid => hv ?_
        rwa [h.eq_of_id_eq hmem stored (hid.trans identity.id)]
    | @added u isConcerned =>
      have hne : v ≠ u := fun heq => hv (heq ▸ isConcerned)
      rw [List.mem_append, List.mem_singleton, or_iff_left hne]
  · cases ht with
    | nothing => exact ⟨v, hv, hrefl v⟩
    | changed stored isConcerned identity allowed =>
      obtain rfl := hc.one v hv _ stored hconcerned isConcerned
      exact ⟨_, self_mem_replace hv identity.id.symm, allowed⟩
    | added => exact ⟨v, List.mem_append_left _ hv, hrefl v⟩

/-- Only the users count for what an operation is confined to. -/
theorem Confined.of_users_eq (husers : s'.users = s.users)
    (hc : Confined concerned change s' s'') : Confined concerned change s s'' where
  one := husers ▸ hc.one
  others := husers ▸ hc.others
  changed := husers ▸ hc.changed

/-- Those who answer to an email are one stored user at most. -/
theorem Consistent.separates_answers (h : s.Consistent) (email : String) :
    Separates (fun u => answers email u = true) s := by
  refine ⟨fun u v huv hu => ?_, fun u hu v hv hanswers hanswers' => ?_⟩
  · rw [answers_iff, huv.email]
    exact answers_iff.mp hu
  · refine h.eq_of_clashes hu hv (clashes_iff.mpr (.inr ?_))
    exact (answers_iff.mp hanswers).trans (answers_iff.mp hanswers').symm

/-- Under the constraints an identifier separates users. -/
theorem Consistent.separates_id (h : s.Consistent) (id : Uuid) :
    Separates (fun u => u.id = id) s :=
  ⟨fun _ _ huv hu => huv.id.trans hu,
    fun _ hu _ hv hid hid' => h.eq_of_id_eq hu hv (hid.trans hid'.symm)⟩

/-! ### One user written twice -/

/-- Of two replacements of a row the last one counts. -/
theorem replace_replace (hid : w.id = u.id) : (s.replace u).replace w = s.replace w := by
  simp only [replace, List.map_map]
  congr 1
  refine List.map_congr_left fun v _ => ?_
  rw [Function.comp_apply, hid]
  by_cases hv : v.id = u.id
  · simp [hv]
  · simp [hv]

/-- Changing a user that was added last is adding another one. -/
theorem replace_append (new : ∀ v ∈ s.users, v.id ≠ u.id) (hid : w.id = u.id) :
    ({ s with users := s.users ++ [u] } : Store).replace w =
      { s with users := s.users ++ [w] } := by
  have hsame : s.users.map (fun v => if v.id = u.id then w else v) = s.users.map id :=
    List.map_congr_left fun v hv => if_neg (new v hv)
  simp [replace, hid, hsame]

end FederatedLogin.Store
