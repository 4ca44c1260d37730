import FederatedLogin.Proofs.Store.Execution
import FederatedLogin.Proofs.Store.Writes
import FederatedLogin.Reconcile

/-!
# What a reconciliation can do

A reconciliation in a consistent store has two stages, and each can end in few ways. `Account`
lists the ways of the first stage, which finds or creates the user: it writes one row, or it fails
and writes nothing. `RoleStep` lists those of the second one, which looks for a mapped role: it
writes the role of that one row, or nothing at all.

`Account.exec` and `RoleStep.exec` say that the stages do these things, and `exists_account` and
`exists_roleStep` that they do no other. `Reconciled` puts the stages together. What other modules
say about reconciliations follows from the cases of the relations.
-/

namespace FederatedLogin.Reconcile

open Store (Consistent Canonical Writes answers)

variable {p : Policy} {id : Uuid} {stale : Nat} {a : Assertion} {s s' : Store} {u : User}
  {r : Except Failure User} {ns : List Notice}

/-! ### The account -/

/-- What the look-up of the asserted user sees. -/
def seen (stale : Nat) (a : Assertion) (s : Store) : Option User :=
  if stale = 0 then s.users.find? (answers a.normalizedEmail) else none

/-- The ways in which the account of an asserted identity is found or created: the result, the store
afterwards, and what is reported. -/
inductive Account (p : Policy) (id : Uuid) (stale : Nat) (a : Assertion) (s : Store) :
    Except Failure User → Store → List Notice → Prop
  | known {u : User} (found : seen stale a s = some u) :
      Account p id stale a s (.ok (refreshed u a)) (s.replace (refreshed u a)) []
  | disabled (unseen : seen stale a s = none) (off : p.provisioning = false) :
      Account p id stale a s (.error (.provisioningDisabled a.normalizedEmail)) s
        [.provisioningDisabled a.normalizedEmail a.provider]
  | noDefaultRole (unseen : seen stale a s = none) (on : p.provisioning = true)
      (missing : s.roles.find? (·.slug == p.defaultRole) = none) :
      Account p id stale a s (.error (.defaultRoleMissing p.defaultRole)) s
        [.defaultRoleMissing p.defaultRole a.normalizedEmail]
  | created {role : Role} {s' : Store} (unseen : seen stale a s = none) (on : p.provisioning = true)
      (default : s.roles.find? (·.slug == p.defaultRole) = some role)
      (inserted : s.insert (newUser id role a) = .ok s') :
      Account p id stale a s (.ok (newUser id role a)) s'
        [.userCreated id a.normalizedEmail a.provider]
  | raced {role : Role} {u : User} (unseen : seen stale a s = none) (on : p.provisioning = true)
      (default : s.roles.find? (·.slug == p.defaultRole) = some role)
      (refused : s.insert (newUser id role a) = .error .conflict)
      (found : seen (stale - 1) a s = some u) :
      Account p id stale a s (.ok (refreshed u a)) (s.replace (refreshed u a))
        [.raceLost a.normalizedEmail]
  | lost {role : Role} (unseen : seen stale a s = none) (on : p.provisioning = true)
      (default : s.roles.find? (·.slug == p.defaultRole) = some role)
      (refused : s.insert (newUser id role a) = .error .conflict)
      (unseenAgain : seen (stale - 1) a s = none) :
      Account p id stale a s (.error (.duplicateEmail a.normalizedEmail)) s []

@[simp]
theorem refreshed_email (u : User) (a : Assertion) : (refreshed u a).email = u.email := rfl

/-- Whoever is seen is stored and answers to the asserted email. -/
theorem seen_eq_some (h : seen stale a s = some u) :
    u ∈ s.users ∧ answers a.normalizedEmail u = true := by
  rw [seen] at h
  split at h
  · exact ⟨List.mem_of_find?_eq_some h, List.find?_some h⟩
  · exact absurd h nofun

/-- A stored user can always be stored under the asserted names. -/
theorem update_refreshed (h : s.Consistent) (hu : u ∈ s.users) (a : Assertion) :
    s.update (refreshed u a) = .ok (s.replace (refreshed u a)) :=
  h.update_renewed hu (Store.holdsRole_iff.mp (h.held u hu))

/-- Over a consistent store the lookup finds at most one user, and neither fails nor writes. -/
theorem exec_lookUp (h : s.Consistent) (n : List Notice) :
    (lookUp stale a).exec ⟨s, n⟩ = (.ok (seen stale a s), ⟨s, n⟩) := by
  rw [lookUp, seen]
  split
  · rw [Action.exec_findUser, h.findByEmail_eq]
    rfl
  · rfl

/-- Refreshing the names of a stored user is never refused. -/
theorem exec_refreshNames (h : s.Consistent) (hu : u ∈ s.users) (n : List Notice) :
    (refreshNames u a).exec ⟨s, n⟩ =
      (.ok (refreshed u a), ⟨s.replace (refreshed u a), n⟩) := by
  rw [refreshNames, Action.exec_save, update_refreshed h hu]

/-- The first stage does what `Account` says. -/
theorem Account.exec (h : s.Consistent) (ha : Account p id stale a s r s' ns) (n : List Notice) :
    (account p id stale a).exec ⟨s, n⟩ = (r, ⟨s', n ++ ns⟩) := by
  rw [account, Action.exec_bind, exec_lookUp h]
  cases ha with
  | known found =>
    simp only [found]
    rw [exec_refreshNames h (seen_eq_some found).1, List.append_nil]
  | disabled unseen off => simp [unseen, provision, off]
  | noDefaultRole unseen on missing =>
    simp [unseen, provision, on, h.findRole_eq, missing]
  | created unseen on default inserted =>
    simp [unseen, provision, createWith, on, h.findRole_eq, default, inserted,
      Except.map]
  | raced unseen on default refused found =>
    simp [unseen, provision, createWith, on, h.findRole_eq, default, refused,
      exec_lookUp h, found, exec_refreshNames h (seen_eq_some found).1]
  | lost unseen on default refused unseenAgain =>
    simp [unseen, provision, createWith, on, h.findRole_eq, default, refused,
      exec_lookUp h, unseenAgain]

/-- There are no other ways to an account. -/
theorem exists_account (p : Policy) (id : Uuid) (stale : Nat) (a : Assertion) (s : Store) :
    ∃ r s' ns, Account p id stale a s r s' ns := by
  rcases hseen : seen stale a s with _ | u
  swap
  · exact ⟨_, _, _, .known hseen⟩
  rcases hon : p.provisioning with _ | _
  · exact ⟨_, _, _, .disabled hseen hon⟩
  rcases hrole : s.roles.find? (·.slug == p.defaultRole) with _ | role
  · exact ⟨_, _, _, .noDefaultRole hseen hon hrole⟩
  rcases hinsert : s.insert (newUser id role a) with f | s'
  swap
  · exact ⟨_, _, _, .created hseen hon hrole hinsert⟩
  obtain rfl := Store.eq_conflict_of_insert hinsert
  rcases hagain : seen (stale - 1) a s with _ | u
  · exact ⟨_, _, _, .lost hseen hon hrole hinsert hagain⟩
  · exact ⟨_, _, _, .raced hseen hon hrole hinsert hagain⟩

theorem writes_refreshed (h : s.Consistent) (hu : u ∈ s.users) (a : Assertion) :
    Writes s (s.replace (refreshed u a)) :=
  .single (.change u _ _ u.role hu (Store.holdsRole_iff.mp (h.held u hu)))

theorem lower_normalizedEmail (a : Assertion) :
    Text.lower a.normalizedEmail = a.normalizedEmail := Text.lower_lower a.email

/-- The account step makes writes of the store only. -/
theorem Account.writes (h : s.Consistent) (ha : Account p id stale a s r s' ns) : Writes s s' := by
  cases ha with
  | known found => exact writes_refreshed h (seen_eq_some found).1 a
  | disabled | noDefaultRole | lost => exact .refl
  | created _ _ _ inserted =>
    exact Store.writes_insert (u := newUser id _ a) (lower_normalizedEmail a) inserted
  | raced _ _ _ _ found => exact writes_refreshed h (seen_eq_some found).1 a

/-- A failed first stage leaves the store as it was. -/
theorem Account.eq_of_error {f : Failure} (ha : Account p id stale a s (.error f) s' ns) :
    s' = s := by
  cases ha <;> rfl

theorem Account.mem (ha : Account p id stale a s (.ok u) s' ns) : u ∈ s'.users := by
  cases ha with
  | known found => exact Store.self_mem_replace (seen_eq_some found).1 rfl
  | created _ _ _ inserted =>
    obtain ⟨-, -, rfl⟩ := Store.insert_eq_ok_iff.mp inserted
    exact List.mem_append_right _ (List.mem_singleton_self _)
  | raced _ _ _ _ found => exact Store.self_mem_replace (seen_eq_some found).1 rfl

/-- A new user answers to the asserted email. -/
theorem answers_newUser (id : Uuid) (role : Role) (a : Assertion) :
    answers a.normalizedEmail (newUser id role a) = true :=
  Store.answers_iff.mpr
    ((Text.asciiLower_lower a.email).trans (Text.lower_lower a.email).symm)

/-- The account is found by the asserted email. -/
theorem Account.answers_email (ha : Account p id stale a s (.ok u) s' ns) :
    answers a.normalizedEmail u = true := by
  cases ha with
  | known found | raced _ _ _ _ found => exact (seen_eq_some found).2
  | created => exact answers_newUser id _ a

/-- In a canonical store, the account has exactly the asserted email in lower case. -/
theorem seen_email (h : s.Canonical) (found : seen stale a s = some u) :
    u.email = a.normalizedEmail := by
  obtain ⟨hu, hanswers⟩ := seen_eq_some found
  rw [(h.answers_iff hu).mp hanswers, lower_normalizedEmail]

/-- The user of the account step has the asserted email. -/
theorem Account.email (h : s.Canonical) (ha : Account p id stale a s (.ok u) s' ns) :
    u.email = a.normalizedEmail := by
  cases ha with
  | known found => rw [refreshed_email, seen_email h found]
  | created => rfl
  | raced _ _ _ _ found => rw [refreshed_email, seen_email h found]

/-! ### The role -/

/-- What reading a mapping text reports about it. -/
def mappingNotices (a : Assertion) : Option RoleMapping.Refusal → List Notice
  | some r => [.mappingIgnored a.provider.name a.provider.mappingKey r]
  | none => []

/-- A user with the role of a slug. -/
def withRole (u : User) (slug : String) : User := { u with role := slug }

@[simp]
theorem withRole_id (u : User) (slug : String) : (withRole u slug).id = u.id := rfl

@[simp]
theorem withRole_email (u : User) (slug : String) : (withRole u slug).email = u.email := rfl

/-- The provider's mapping text can be read, and it maps the asserted roles to a slug, or to
none. -/
structure Mapped (p : Policy) (a : Assertion) (slug : Option Text) : Prop where
  asserted : a.externalRoles ≠ []
  text : ∃ m, RoleMapping.loadLenient (p.mappings.text a.provider) = .ok (m, none) ∧ m ≠ [] ∧
    m.resolve (a.externalRoles.map Text.ofString) = slug

/-- The ways in which the mapped role is applied to a user: the result, the store afterwards, and
what is reported. -/
inductive RoleStep (p : Policy) (a : Assertion) (s : Store) (u : User) :
    Except Failure User → Store → List Notice → Prop
  | noRoles (unasserted : a.externalRoles = []) : RoleStep p a s u (.ok u) s []
  | beyond {limit : Json.Limit} (asserted : a.externalRoles ≠ [])
      (text : RoleMapping.loadLenient (p.mappings.text a.provider) = .error limit) :
      RoleStep p a s u (.error (.mappingBeyond limit)) s []
  | noMapping {refusal : Option RoleMapping.Refusal} (asserted : a.externalRoles ≠ [])
      (text : RoleMapping.loadLenient (p.mappings.text a.provider) = .ok ([], refusal)) :
      RoleStep p a s u (.ok u) s (mappingNotices a refusal)
  | noMatch (mapped : Mapped p a none) :
      RoleStep p a s u (.ok u) s [.noMappingMatched u.email a.provider a.externalRoles]
  | notText {slug : Text} (mapped : Mapped p a (some slug)) (surrogate : slug.toString? = none) :
      RoleStep p a s u (.error (.slugNotText slug)) s []
  | roleMissing {slug : Text} {name : String} (mapped : Mapped p a (some slug))
      (isText : slug.toString? = some name)
      (missing : s.roles.find? (·.slug == name) = none) :
      RoleStep p a s u (.ok u) s [.mappedRoleMissing u.email a.provider name]
  | assigned {slug : Text} {role : Role} (mapped : Mapped p a (some slug))
      (isText : slug.toString? = some role.slug)
      (found : s.roles.find? (·.slug == role.slug) = some role) :
      RoleStep p a s u (.ok (withRole u role.slug)) (s.replace (withRole u role.slug)) []

/-- A mapping that is refused is empty. -/
theorem refusal_eq_none {source : Option String} {m : RoleMapping}
    {refusal : Option RoleMapping.Refusal}
    (hload : RoleMapping.loadLenient source = .ok (m, refusal)) (hm : m ≠ []) : refusal = none := by
  rw [RoleMapping.loadLenient] at hload
  split at hload
  · exact (Prod.mk.inj (Except.ok.inj hload)).2.symm
  · exact absurd (Prod.mk.inj (Except.ok.inj hload)).1.symm hm
  · exact absurd hload nofun

/-- Giving a stored user a stored role is never refused. -/
theorem update_withRole (h : s.Consistent) (hu : u ∈ s.users) {role : Role}
    (hrole : role ∈ s.roles) :
    s.update (withRole u role.slug) = .ok (s.replace (withRole u role.slug)) :=
  h.update_renewed hu ⟨role, hrole, rfl⟩

/-- A user that holds the role already is not stored again, which makes no difference. -/
theorem exec_applySlug (h : s.Consistent) (hu : u ∈ s.users) {role : Role}
    (found : s.roles.find? (·.slug == role.slug) = some role) (n : List Notice) :
    (applySlug u a role.slug).exec ⟨s, n⟩ =
      (.ok (withRole u role.slug), ⟨s.replace (withRole u role.slug), n⟩) := by
  by_cases hsame : u.role = role.slug
  -- Nothing is written here, and writing the user as it is would change nothing.
  · have hself : withRole u role.slug = u := by rw [withRole, ← hsame]
    rw [hself, h.replace_self hu]
    simp [applySlug, h.findRole_eq, found, hsame]
  · have hupdate := update_withRole h hu (List.mem_of_find?_eq_some found)
    rw [withRole] at hupdate
    simp [applySlug, h.findRole_eq, found, hsame, hupdate, withRole]

/-- A role step that reaches a mapping applies what the mapping resolves to. -/
theorem Mapped.exec {slug : Option Text} (mapped : Mapped p a slug) (u : User) (q : Progress) :
    ∃ m : RoleMapping, m.resolve (a.externalRoles.map Text.ofString) = slug ∧
      (applyMappedRole p a u).exec q = (applyMapped u a m).exec q := by
  obtain ⟨asserted, m, hload, hm, hresolve⟩ := mapped
  refine ⟨m, hresolve, ?_⟩
  simp [applyMappedRole, asserted, hload, hm]

/-- The second stage does what `RoleStep` says. -/
theorem RoleStep.exec (h : s.Consistent) (hu : u ∈ s.users) (hr : RoleStep p a s u r s' ns)
    (n : List Notice) : (applyMappedRole p a u).exec ⟨s, n⟩ = (r, ⟨s', n ++ ns⟩) := by
  cases hr with
  | noRoles unasserted => simp [applyMappedRole, unasserted]
  | beyond asserted text => simp [applyMappedRole, asserted, text]
  | @noMapping refusal asserted text =>
    cases refusal <;>
      simp [applyMappedRole, asserted, text, Except.map, mappingNotices]
  | noMatch mapped =>
    obtain ⟨m, hresolve, hexec⟩ := mapped.exec u ⟨s, n⟩
    simp [hexec, applyMapped, hresolve, Except.map]
  | notText mapped surrogate =>
    obtain ⟨m, hresolve, hexec⟩ := mapped.exec u ⟨s, n⟩
    simp [hexec, applyMapped, hresolve, surrogate]
  | roleMissing mapped isText missing =>
    obtain ⟨m, hresolve, hexec⟩ := mapped.exec u ⟨s, n⟩
    simp [hexec, applyMapped, hresolve, isText, applySlug, h.findRole_eq, missing,
      Except.map]
  | assigned mapped isText found =>
    obtain ⟨m, hresolve, hexec⟩ := mapped.exec u ⟨s, n⟩
    simp [hexec, applyMapped, hresolve, isText, exec_applySlug h hu found]

/-- There are no other ways of the second stage. -/
theorem exists_roleStep (p : Policy) (a : Assertion) (s : Store) (u : User) :
    ∃ r s' ns, RoleStep p a s u r s' ns := by
  by_cases asserted : a.externalRoles = []
  · exact ⟨_, _, _, .noRoles asserted⟩
  rcases hload : RoleMapping.loadLenient (p.mappings.text a.provider) with limit | ⟨m, refusal⟩
  · exact ⟨_, _, _, .beyond asserted hload⟩
  by_cases hm : m = []
  · subst hm
    exact ⟨_, _, _, .noMapping asserted hload⟩
  obtain rfl := refusal_eq_none hload hm
  have mapped : Mapped p a (m.resolve (a.externalRoles.map Text.ofString)) :=
    ⟨asserted, m, hload, hm, rfl⟩
  rcases hresolve : m.resolve (a.externalRoles.map Text.ofString) with _ | slug
  · exact ⟨_, _, _, .noMatch (hresolve ▸ mapped)⟩
  rw [hresolve] at mapped
  rcases htext : slug.toString? with _ | name
  · exact ⟨_, _, _, .notText mapped htext⟩
  rcases hfound : s.roles.find? (·.slug == name) with _ | role
  · exact ⟨_, _, _, .roleMissing mapped htext hfound⟩
  · have hslug := List.find?_some hfound
    obtain rfl : role.slug = name := beq_iff_eq.mp hslug
    exact ⟨_, _, _, .assigned mapped htext hfound⟩

/-- The second stage changes nothing of a user but the role. -/
theorem RoleStep.eq_withRole (hr : RoleStep p a s u r s' ns) :
    s' = s ∧ (r = .ok u ∨ ∃ f, r = .error f) ∨
      ∃ role ∈ s.roles, r = .ok (withRole u role.slug) ∧ s' = s.replace (withRole u role.slug) := by
  cases hr with
  | beyond | notText => exact .inl ⟨rfl, .inr ⟨_, rfl⟩⟩
  | assigned _ _ found => exact .inr ⟨_, List.mem_of_find?_eq_some found, rfl, rfl⟩
  | noRoles | noMapping | noMatch | roleMissing => exact .inl ⟨rfl, .inl rfl⟩

/-- The role step makes writes of the store only. -/
theorem RoleStep.writes (hu : u ∈ s.users) (hr : RoleStep p a s u r s' ns) : Writes s s' := by
  rcases hr.eq_withRole with ⟨rfl, -⟩ | ⟨role, hrole, -, rfl⟩
  · exact .refl
  · exact .single (.change u u.firstName u.lastName _ hu ⟨role, hrole, rfl⟩)

/-- The user that the second stage gives back is stored, and is the one it was given but for the
role. -/
theorem RoleStep.stored {u' : User} (hu : u ∈ s.users) (hr : RoleStep p a s u (.ok u') s' ns) :
    u' ∈ s'.users ∧ ∃ slug, u' = withRole u slug := by
  rcases hr.eq_withRole with ⟨rfl, hsame | ⟨f, hf⟩⟩ | ⟨role, -, hassigned, rfl⟩
  · obtain rfl := Except.ok.inj hsame
    exact ⟨hu, u'.role, rfl⟩
  · exact absurd hf nofun
  · obtain rfl := Except.ok.inj hassigned
    exact ⟨Store.self_mem_replace hu rfl, role.slug, rfl⟩

/-! ### Both stages -/

/-- A reconciliation finds or creates an account, and applies the mapped role to it. -/
inductive Reconciled (p : Policy) (id : Uuid) (stale : Nat) (a : Assertion) (s : Store) :
    Except Failure User → Store → List Notice → Prop
  | noAccount {f : Failure} {ns : List Notice}
      (account : Account p id stale a s (.error f) s ns) :
      Reconciled p id stale a s (.error f) s ns
  | account {u : User} {s₁ s₂ : Store} {r : Except Failure User} {ns₁ ns₂ : List Notice}
      (account : Account p id stale a s (.ok u) s₁ ns₁) (roleStep : RoleStep p a s₁ u r s₂ ns₂) :
      Reconciled p id stale a s r s₂ (ns₁ ++ ns₂)

/-- A reconciliation makes writes of the store only. -/
theorem Reconciled.writes (h : s.Consistent) (hr : Reconciled p id stale a s r s' ns) :
    Writes s s' := by
  cases hr with
  | noAccount => exact .refl
  | account account roleStep => exact (account.writes h).trans (roleStep.writes account.mem)

/-- In a consistent store, a reconciliation never fails at the store itself. -/
theorem Reconciled.ne_store {f : Failure} (hr : Reconciled p id stale a s (.error f) s' ns)
    (fault : Store.Fault) : f ≠ .store fault := by
  cases hr with
  | noAccount account => cases account <;> exact nofun
  | account _ roleStep => cases roleStep <;> exact nofun

/-- A successful reconciliation gives back a stored user with the asserted email. -/
theorem Reconciled.stored (h : s.Canonical) (hr : Reconciled p id stale a s (.ok u) s' ns) :
    u ∈ s'.users ∧ u.email = a.normalizedEmail := by
  cases hr with
  | account account roleStep =>
    obtain ⟨hu, slug, rfl⟩ := roleStep.stored account.mem
    rw [withRole_email]
    exact ⟨hu, account.email h⟩

/-- A reconciliation in a consistent store does what `Reconciled` says. -/
theorem Reconciled.exec (h : s.Consistent) (hr : Reconciled p id stale a s r s' ns)
    (n : List Notice) : (reconcile p id stale a).exec ⟨s, n⟩ = (r, ⟨s', n ++ ns⟩) := by
  rw [reconcile, Action.exec_bind]
  cases hr with
  | noAccount account => rw [account.exec h]
  | account account roleStep =>
    rw [account.exec h, ← List.append_assoc]
    exact roleStep.exec (h.writes (account.writes h)) account.mem _

/-- There are no other ways of a reconciliation. -/
theorem exists_reconciled (p : Policy) (id : Uuid) (stale : Nat) (a : Assertion) (s : Store) :
    ∃ r s' ns, Reconciled p id stale a s r s' ns := by
  obtain ⟨r, s₁, ns₁, haccount⟩ := exists_account p id stale a s
  rcases r with f | u
  · obtain rfl := haccount.eq_of_error
    exact ⟨_, _, _, .noAccount haccount⟩
  · obtain ⟨r, s₂, ns₂, hrole⟩ := exists_roleStep p a s₁ u
    exact ⟨_, _, _, .account haccount hrole⟩

/-- From a consistent store, a reconciliation starts and ends as `Reconciled` says, and so in one
way only. -/
theorem start_eq_iff (h : s.Consistent) :
    (reconcile p id stale a).start s = (r, ⟨s', ns⟩) ↔ Reconciled p id stale a s r s' ns := by
  refine ⟨fun hstart => ?_, fun hr => hr.exec h []⟩
  obtain ⟨r₁, s₁, ns₁, hr⟩ := exists_reconciled p id stale a s
  have hsame := (hr.exec h []).symm.trans hstart
  obtain ⟨rfl, hprogress⟩ := Prod.mk.inj hsame
  obtain ⟨rfl, rfl⟩ := Progress.mk.inj hprogress
  exact hr

end FederatedLogin.Reconcile
