import FederatedLogin.Proofs.Reconcile.MappingText

/-!
# What a failed reconciliation leaves

Each stage of a reconciliation fails cleanly: it has written nothing when it fails
(`failsCleanly_account`, `failsCleanly_applyMappedRole`). So the store after a failure is the one
before, if the account could not be found or created, and else the one that the first stage has
left. `recorded_of_account` says what that is: the whole account, with the role that it had or was
created with.

Nothing is assumed of the store, so that this holds on every path, whatever look-ups miss a user.
-/

namespace FederatedLogin.Reconcile

variable {p : Policy} {id : Uuid} {stale : Nat} {a : Assertion} {s s' : Store} {u : User}
  {f : Failure} {n n' ns : List Notice}

/-- The account could not be found or created. -/
inductive Failure.OfAccount : Failure → Prop
  | provisioningDisabled (email : String) : OfAccount (.provisioningDisabled email)
  | defaultRoleMissing (slug : String) : OfAccount (.defaultRoleMissing slug)
  | duplicateEmail (email : String) : OfAccount (.duplicateEmail email)

/-- The role mapping could not be applied. -/
inductive Failure.OfMapping : Failure → Prop
  | mappingBeyond (limit : Json.Limit) : OfMapping (.mappingBeyond limit)
  | slugNotText (slug : Text) : OfMapping (.slugNotText slug)

/-- The store itself has failed, or there was a failure of another kind. -/
def orStore (kind : Failure → Prop) (f : Failure) : Prop := kind f ∨ ∃ fault, f = .store fault

theorem orStore_store (kind : Failure → Prop) (fault : Store.Fault) :
    orStore kind (.store fault) := .inr ⟨fault, rfl⟩

/-! ### The stages fail cleanly -/

/-- The lookup writes nothing, with a stale answer or without. -/
theorem readsOnly_lookUp (stale : Nat) (a : Assertion) : (lookUp stale a).ReadsOnly := by
  rw [lookUp]
  split
  · exact Action.readsOnly_findUser _ _
  · exact Action.readsOnly_pure _

theorem failsCleanly_lookUp (stale : Nat) (a : Assertion) :
    (lookUp stale a).FailsCleanly (orStore Failure.OfAccount) :=
  .ite (Action.failsCleanly_findUser (orStore_store _) _) (Action.failsCleanly_pure _)

/-- Names are refreshed by one write, and a write that is refused changes nothing. -/
theorem failsCleanly_refreshNames (u : User) (a : Assertion) :
    (refreshNames u a).FailsCleanly (orStore Failure.OfAccount) :=
  Action.failsCleanly_save (orStore_store _) _

/-- Once a new user is in the store, nothing fails any more. -/
theorem failsCleanly_createWith (id : Uuid) (stale : Nat) (a : Assertion) (role : Role) :
    (createWith id stale a role).FailsCleanly (orStore Failure.OfAccount) := by
  refine .bind Action.readsOnly_store Action.failsCleanly_store fun s => ?_
  rcases s.insert (newUser id role a) with fault | s'
  · refine .bind (readsOnly_lookUp _ _) (failsCleanly_lookUp _ _) fun seen => ?_
    rcases seen with _ | known
    · exact Action.failsCleanly_fail (.inl (.duplicateEmail _))
    · exact .bind (Action.readsOnly_report _) (Action.failsCleanly_report _) fun _ =>
        failsCleanly_refreshNames known a
  · exact Action.failsCleanly_of_ok fun q => ⟨newUser id role a, _, rfl⟩

/-- An account is added by the last step of provisioning. -/
theorem failsCleanly_provision (p : Policy) (id : Uuid) (stale : Nat) (a : Assertion) :
    (provision p id stale a).FailsCleanly (orStore Failure.OfAccount) := by
  rw [provision]
  split
  · refine .bind (Action.readsOnly_findRole _ _)
      (Action.failsCleanly_findRole (orStore_store _) _) fun found => ?_
    rcases found with _ | role
    · exact .bind (Action.readsOnly_report _) (Action.failsCleanly_report _) fun _ =>
        Action.failsCleanly_fail (.inl (.defaultRoleMissing _))
    · exact failsCleanly_createWith id stale a role
  · intro q e hfail
    obtain rfl := Except.error.inj hfail
    exact ⟨.inl (.provisioningDisabled _), rfl⟩

/-- A failed first stage has written nothing. -/
theorem failsCleanly_account (p : Policy) (id : Uuid) (stale : Nat) (a : Assertion) :
    (account p id stale a).FailsCleanly (orStore Failure.OfAccount) := by
  refine .bind (readsOnly_lookUp _ _) (failsCleanly_lookUp _ _) fun seen => ?_
  rcases seen with _ | known
  · exact failsCleanly_provision p id (stale - 1) a
  · exact failsCleanly_refreshNames known a

/-- A role is given by one write, and a write that is refused changes nothing. -/
theorem failsCleanly_applySlug (u : User) (a : Assertion) (slug : String) :
    (applySlug u a slug).FailsCleanly (orStore Failure.OfMapping) := by
  refine .bind (Action.readsOnly_findRole _ _)
    (Action.failsCleanly_findRole (orStore_store _) _) fun found => ?_
  rcases found with _ | role
  · exact Action.failsCleanly_of_ok fun q => ⟨u, _, rfl⟩
  · exact .ite (Action.failsCleanly_pure _) (Action.failsCleanly_save (orStore_store _) _)

theorem failsCleanly_applyMapped (u : User) (a : Assertion) (m : RoleMapping) :
    (applyMapped u a m).FailsCleanly (orStore Failure.OfMapping) := by
  rw [applyMapped]
  split
  · exact Action.failsCleanly_of_ok fun q => ⟨u, _, rfl⟩
  · split
    · exact Action.failsCleanly_fail (.inl (.slugNotText _))
    · exact failsCleanly_applySlug u a _

/-- A failed second stage has written nothing. -/
theorem failsCleanly_applyMappedRole (p : Policy) (a : Assertion) (u : User) :
    (applyMappedRole p a u).FailsCleanly (orStore Failure.OfMapping) := by
  refine .ite (Action.failsCleanly_pure _) (.bind (Action.readsOnly_of _)
    (Action.failsCleanly_of fun e he => ?_) fun loaded => ?_)
  · obtain ⟨limit, -, rfl⟩ := mapError_eq_error.mp he
    exact .inl (.mappingBeyond limit)
  · obtain ⟨m, refusal⟩ := loaded
    have hrest :
        (if m.isEmpty then pure u else applyMapped u a m : Action Failure User).FailsCleanly
          (orStore Failure.OfMapping) :=
      .ite (Action.failsCleanly_pure _) (failsCleanly_applyMapped u a m)
    rcases refusal with _ | refusal
    · exact hrest
    · exact .bind (Action.readsOnly_report _) (Action.failsCleanly_report _) fun _ => hrest

/-! ### The account that the first stage leaves -/

/-- The account of an assertion is recorded as a whole: a known user under the asserted names and
with the role from before, or a new user with the default role. -/
inductive Recorded (p : Policy) (id : Uuid) (a : Assertion) (s : Store) : User → Store → Prop
  | refreshed {u v : User} {s' : Store} (found : s.findByEmail a.normalizedEmail = .ok (some v))
      (names : u = refreshed v a) (role : u.role = v.role) (stored : s.update u = .ok s') :
      Recorded p id a s u s'
  | created {role : Role} {u : User} {s' : Store}
      (default : s.findRole p.defaultRole = .ok (some role)) (new : u = newUser id role a)
      (role : u.role = role.slug) (stored : s.insert u = .ok s') : Recorded p id a s u s'

/-- A user who is looked up is the one of the store. -/
theorem lookUp_eq_some {v : User} {q q' : Progress}
    (h : (lookUp stale a).exec q = (.ok (some v), q')) :
    q.store.findByEmail a.normalizedEmail = .ok (some v) ∧ q' = q := by
  rw [lookUp] at h
  split at h
  · obtain ⟨hfound, hsame⟩ := Prod.mk.inj h
    exact ⟨mapError_eq_ok.mp hfound, hsame.symm⟩
  · cases (Prod.mk.inj h).1

theorem recorded_of_refreshNames {v : User} (found : s.findByEmail a.normalizedEmail = .ok (some v))
    (h : (refreshNames v a).exec ⟨s, n⟩ = (.ok u, ⟨s', n'⟩)) : Recorded p id a s u s' := by
  rw [refreshNames, Action.exec_save] at h
  rcases hupdate : s.update (refreshed v a) with fault | s₁
  · rw [hupdate] at h
    cases (Prod.mk.inj h).1
  · rw [hupdate] at h
    obtain ⟨hu, hq⟩ := Prod.mk.inj h
    obtain rfl := Except.ok.inj hu
    obtain ⟨rfl, -⟩ := Progress.mk.inj hq
    exact .refreshed found rfl rfl hupdate

/-- A user that is created is created as a whole, and so is one brought up to date that another
login has stored in the meantime. -/
theorem recorded_of_createWith {role : Role} (default : s.findRole p.defaultRole = .ok (some role))
    (h : (createWith id stale a role).exec ⟨s, n⟩ = (.ok u, ⟨s', n'⟩)) :
    Recorded p id a s u s' := by
  simp only [createWith, Action.exec_bind, Action.exec_store] at h
  rcases hinsert : s.insert (newUser id role a) with fault | s₁
  · simp only [hinsert, Action.exec_bind] at h
    rcases hseen : (lookUp stale a).exec ⟨s, n⟩ with ⟨_ | _ | v, q⟩
    · simp only [hseen] at h
      cases (Prod.mk.inj h).1
    · simp only [hseen] at h
      cases (Prod.mk.inj h).1
    · obtain ⟨found, rfl⟩ := lookUp_eq_some hseen
      simp only [hseen] at h
      exact recorded_of_refreshNames found h
  · simp only [hinsert] at h
    obtain ⟨hu, hq⟩ := Prod.mk.inj h
    obtain rfl := Except.ok.inj hu
    obtain ⟨rfl, -⟩ := Progress.mk.inj hq
    exact .created default rfl rfl hinsert

/-- So is what provisioning leaves, with a lost race or without. -/
theorem recorded_of_provision (h : (provision p id stale a).exec ⟨s, n⟩ = (.ok u, ⟨s', n'⟩)) :
    Recorded p id a s u s' := by
  rw [provision] at h
  split at h
  · rw [Action.exec_bind, Action.exec_findRole] at h
    rcases hrole : s.findRole p.defaultRole with fault | _ | role
    · simp only [hrole] at h
      cases (Prod.mk.inj h).1
    · simp only [hrole] at h
      cases (Prod.mk.inj h).1
    · simp only [hrole] at h
      exact recorded_of_createWith hrole h
  · cases (Prod.mk.inj h).1

/-- The first stage records the account as a whole. -/
theorem recorded_of_account (h : (account p id stale a).exec ⟨s, n⟩ = (.ok u, ⟨s', n'⟩)) :
    Recorded p id a s u s' := by
  rw [account, Action.exec_bind] at h
  rcases hseen : (lookUp stale a).exec ⟨s, n⟩ with ⟨_ | _ | v, q⟩
  · simp only [hseen] at h
    cases (Prod.mk.inj h).1
  · have hstore := readsOnly_lookUp stale a ⟨s, n⟩
    simp only [hseen] at h hstore
    obtain ⟨s₁, n₁⟩ := q
    obtain rfl : s₁ = s := hstore
    exact recorded_of_provision h
  · obtain ⟨found, rfl⟩ := lookUp_eq_some hseen
    simp only [hseen] at h
    exact recorded_of_refreshNames found h

/-! ### The store after a failure -/

/-- The assertion without roles. -/
def roleless (a : Assertion) : Assertion := { a with externalRoles := [] }

/-- Without asserted roles, a reconciliation is its first stage. -/
theorem reconcile_roleless (p : Policy) (id : Uuid) (stale : Nat) (a : Assertion) :
    reconcile p id stale (roleless a) = account p id stale a := by
  have hsame (u : User) : applyMappedRole p (roleless a) u = pure u := rfl
  rw [reconcile]
  simp only [hsame, bind_pure]
  rfl

/-- A reconciliation that could not find or create the account leaves the store exactly as it was.
One that fails where it would succeed without asserted roles, as it does if the mapping cannot be
applied, leaves exactly the store that it would leave without them: the account is recorded as a
whole, and its role is untouched. -/
theorem store_of_failure (p : Policy) (id : Uuid) (stale : Nat) (a : Assertion)
    (failed : (reconcile p id stale a).start s = (.error f, ⟨s', ns⟩)) :
    (f.OfAccount → s' = s) ∧
      (∀ u s₁ ns₁, (reconcile p id stale (roleless a)).start s = (.ok u, ⟨s₁, ns₁⟩) →
        s' = s₁ ∧ Recorded p id a s u s₁) ∧
      (f.OfMapping →
        ∃ u ns₁, (reconcile p id stale (roleless a)).start s = (.ok u, ⟨s', ns₁⟩)) := by
  rw [reconcile_roleless]
  simp only [Action.start_eq] at failed ⊢
  rw [reconcile, Action.exec_bind] at failed
  rcases haccount : (account p id stale a).exec ⟨s, []⟩ with ⟨g | u, s₁, ns₁⟩
  -- The first stage has failed, so there was no mapping yet to be applied.
  · have hclean := failsCleanly_account p id stale a ⟨s, []⟩ g (by rw [haccount])
    simp only [haccount] at failed hclean
    obtain ⟨hg, hq⟩ := Prod.mk.inj failed
    obtain rfl := Except.error.inj hg
    obtain ⟨rfl, -⟩ := Progress.mk.inj hq
    refine ⟨fun _ => hclean.2, fun u s₂ ns₂ h => ?_, fun hmapping => ?_⟩
    · cases (Prod.mk.inj h).1
    · rcases hclean.1 with hof | ⟨fault, rfl⟩
      · cases hof <;> cases hmapping
      · cases hmapping
  -- The second stage has failed, and left what the first one has written.
  · simp only [haccount] at failed
    have hclean := failsCleanly_applyMappedRole p a u ⟨s₁, ns₁⟩ f (by rw [failed])
    rw [failed] at hclean
    obtain rfl : s' = s₁ := hclean.2
    refine ⟨fun hof => ?_, fun u' s₂ ns₂ h => ?_, fun _ => ⟨u, ns₁, rfl⟩⟩
    · rcases hclean.1 with hmapping | ⟨fault, rfl⟩
      · cases hof <;> cases hmapping
      · cases hof
    · obtain ⟨hu, hq⟩ := Prod.mk.inj h
      obtain rfl := Except.ok.inj hu
      obtain ⟨rfl, -⟩ := Progress.mk.inj hq
      exact ⟨rfl, recorded_of_account haccount⟩

/-- New users are not created. -/
def closedPolicy : Policy := { staffPolicy with provisioning := false }

/-- A first login whose mapping text nests too deep creates the user all the same; one that is not
to create users leaves the store as it was. -/
theorem store_of_failure_grace :
    (∃ s' ns, (reconcile deepPolicy ⟨2⟩ 0 grace).start office =
        (.error (.mappingBeyond .tooDeep), ⟨s', ns⟩) ∧ s' ≠ office ∧
      ∃ u ns₁, (reconcile deepPolicy ⟨2⟩ 0 (roleless grace)).start office = (.ok u, ⟨s', ns₁⟩) ∧
        Recorded deepPolicy ⟨2⟩ grace office u s') ∧
      ∃ s' ns, (reconcile closedPolicy ⟨2⟩ 0 grace).start office =
        (.error (.provisioningDisabled grace.normalizedEmail), ⟨s', ns⟩) ∧ s' = office := by
  constructor
  · have asserted : grace.externalRoles ≠ [] := List.cons_ne_nil _ _
    have fails : TextFails deepPolicy grace (.mappingBeyond .tooDeep) :=
      .beyond asserted beyond_deepText
    have failed := (start_eq_iff consistent_office).mpr
      (.account (account_grace deepPolicy.mappings) (fails.roleStep _ _))
    obtain ⟨-, hstore, hmapping⟩ := store_of_failure deepPolicy ⟨2⟩ 0 grace failed
    obtain ⟨u, ns₁, plain⟩ := hmapping (.mappingBeyond _)
    refine ⟨_, _, failed, ?_, u, ns₁, plain, (hstore u _ ns₁ plain).2⟩
    intro hsame
    exact absurd (congrArg (·.users.length) hsame) (by decide)
  · have unseen : seen 0 grace office = none := by decide +kernel
    have account : Account closedPolicy ⟨2⟩ 0 grace office _ _ _ := .disabled unseen rfl
    have failed := (start_eq_iff consistent_office).mpr (.noAccount account)
    have hstore := (store_of_failure closedPolicy ⟨2⟩ 0 grace failed).1
    exact ⟨_, _, failed, hstore (.provisioningDisabled _)⟩

end FederatedLogin.Reconcile
