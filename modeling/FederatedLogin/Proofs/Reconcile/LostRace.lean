import FederatedLogin.Proofs.Store.Consistency
import FederatedLogin.Proofs.Store.Execution
import FederatedLogin.Reconcile

/-!
# Losing a race

Two logins of one unknown user can both find no user, so that the later one tries to create what the
earlier one has stored. The store refuses the second user (`insert_newUser_eq_conflict`), and from
there the reconciliation goes on like one that saw the user in the first place: both come to the
same result and leave the same store, in every store that has the user.
-/

namespace FederatedLogin.Reconcile

open Store (answers)

variable {p : Policy} {a : Assertion} {s : Store} {u : User}

/-! ### Reports of a reconciliation -/

theorem appends_lookUp (stale : Nat) (a : Assertion) : (lookUp stale a).Appends :=
  .ite (Action.appends_findUser _ _) (Action.appends_pure _)

theorem appends_applySlug (u : User) (a : Assertion) (slug : String) :
    (applySlug u a slug).Appends := by
  refine .bind (Action.appends_findRole _ _) fun found => ?_
  rcases found with _ | role
  · exact .bind (Action.appends_report _) fun _ => Action.appends_pure _
  · exact .ite (Action.appends_pure _) (Action.appends_save _ _)

theorem appends_applyMapped (u : User) (a : Assertion) (m : RoleMapping) :
    (applyMapped u a m).Appends := by
  rw [applyMapped]
  split
  · exact .bind (Action.appends_report _) fun _ => Action.appends_pure _
  · split
    · exact Action.appends_fail _
    · exact appends_applySlug u a _

theorem appends_applyMappedRole (p : Policy) (a : Assertion) (u : User) :
    (applyMappedRole p a u).Appends := by
  refine .ite (Action.appends_pure _) (.bind (Action.appends_of _) fun loaded => ?_)
  obtain ⟨m, refusal⟩ := loaded
  have hrest : (if m.isEmpty then pure u else applyMapped u a m).Appends :=
    .ite (Action.appends_pure _) (appends_applyMapped u a m)
  rcases refusal with _ | refusal
  · exact hrest
  · exact .bind (Action.appends_report _) fun _ => hrest

theorem appends_createWith (id : Uuid) (stale : Nat) (a : Assertion) (role : Role) :
    (createWith id stale a role).Appends := by
  refine .bind Action.appends_store fun s => ?_
  rcases s.insert (newUser id role a) with f | s'
  · refine .bind (appends_lookUp stale a) fun seen => ?_
    rcases seen with _ | known
    · exact Action.appends_fail _
    · exact .bind (Action.appends_report _) fun _ => Action.appends_save _ _
  · exact .bind (Action.appends_put _) fun _ =>
      .bind (Action.appends_report _) fun _ => Action.appends_pure _

theorem appends_provision (p : Policy) (id : Uuid) (stale : Nat) (a : Assertion) :
    (provision p id stale a).Appends := by
  rw [provision]
  split
  · refine .bind (Action.appends_findRole _ _) fun found => ?_
    rcases found with _ | role
    · exact .bind (Action.appends_report _) fun _ => Action.appends_fail _
    · exact appends_createWith id stale a role
  · exact fun s => ⟨.error (.provisioningDisabled a.normalizedEmail), s,
      [.provisioningDisabled a.normalizedEmail a.provider], fun n => by simp⟩

theorem appends_reconcile (p : Policy) (id : Uuid) (stale : Nat) (a : Assertion) :
    (reconcile p id stale a).Appends := by
  refine .bind (.bind (appends_lookUp stale a) fun seen => ?_) (appends_applyMappedRole p a)
  rcases seen with _ | known
  · exact appends_provision p id (stale - 1) a
  · exact Action.appends_save _ _

/-! ### The two ways to the account -/

/-- A user that the look-up would find is in the way of a new one for the same assertion. -/
theorem insert_newUser_eq_conflict (present : ∃ u ∈ s.users, answers a.normalizedEmail u = true)
    (id : Uuid) (role : Role) : s.insert (newUser id role a) = .error .conflict := by
  obtain ⟨u, hu, hanswers⟩ := present
  have hclash : Store.clashes (newUser id role a) u = true := by
    refine Store.clashes_iff.mpr (.inr ?_)
    rw [Store.answers_iff.mp hanswers]
    exact (Text.asciiLower_lower a.email).trans (Text.lower_lower a.email).symm
  have hany : s.users.any (Store.clashes (newUser id role a)) = true :=
    List.any_eq_true.mpr ⟨u, hu, hclash⟩
  rw [Store.insert, hany, Bool.not_true, Bool.and_false]
  rfl

/-- A look-up that would find a user never says that there is none. -/
theorem findByEmail_ne_none {email : String} (present : ∃ u ∈ s.users, answers email u = true) :
    s.findByEmail email ≠ .ok none := by
  obtain ⟨u, hu, hanswers⟩ := present
  have hmem : u ∈ s.users.filter (answers email) := List.mem_filter.mpr ⟨hu, hanswers⟩
  rw [Store.findByEmail]
  revert hmem
  rcases s.users.filter (answers email) with _ | ⟨v, _ | ⟨w, l⟩⟩ <;> intro hmem
  · exact absurd hmem List.not_mem_nil
  · exact nofun
  · exact nofun

/-- After a lost race, the account is brought up to date like the account of a known user. -/
theorem exec_account_of_present (present : ∃ u ∈ s.users, answers a.normalizedEmail u = true)
    (on : p.provisioning = true) {role : Role}
    (default : s.findRole p.defaultRole = .ok (some role)) (id id' : Uuid) (n : List Notice) :
    ∃ ns, (account p id 1 a).exec ⟨s, n⟩ = (account p id' 0 a).exec ⟨s, n ++ ns⟩ := by
  have hinsert := insert_newUser_eq_conflict present id role
  rcases hfind : s.findByEmail a.normalizedEmail with fault | _ | u
  -- A look-up that fails does so the second time as well as the first.
  · refine ⟨[], ?_⟩
    simp [account, provision, createWith, lookUp, on, default, hinsert, hfind]
  · exact absurd hfind (findByEmail_ne_none present)
  · refine ⟨[.raceLost a.normalizedEmail], ?_⟩
    simp [account, provision, createWith, lookUp, on, default, hinsert, hfind]

/-- If the asserted user is stored, users are created on demand and the default role exists, then a
reconciliation that does not see the user at first gives the same result, and leaves the same store,
as one that does. The identifier that it would have given the new user plays no part. -/
theorem reconcile_of_lost_race (present : ∃ u ∈ s.users, answers a.normalizedEmail u = true)
    (on : p.provisioning = true) {role : Role}
    (default : s.findRole p.defaultRole = .ok (some role)) (id id' : Uuid) :
    ((reconcile p id 1 a).start s).1 = ((reconcile p id' 0 a).start s).1 ∧
      ((reconcile p id 1 a).start s).2.store = ((reconcile p id' 0 a).start s).2.store ∧
      s.insert (newUser id role a) = .error .conflict := by
  obtain ⟨ns, haccount⟩ := exec_account_of_present present on default id id' []
  have hreconcile : (reconcile p id 1 a).exec ⟨s, []⟩ =
      (reconcile p id' 0 a).exec ⟨s, [] ++ ns⟩ := by
    rw [reconcile, reconcile, Action.exec_bind, Action.exec_bind, haccount]
  obtain ⟨hresult, hstore⟩ := (appends_reconcile p id' 0 a).exec_eq s ([] ++ ns) []
  rw [Action.start_eq, Action.start_eq, hreconcile]
  exact ⟨hresult, hstore, insert_newUser_eq_conflict present id role⟩

/-- The race is lost for a stored user whose asserted role is mapped. -/
theorem reconcile_of_lost_race_ada :
    let a : Assertion := ⟨"ADA@Example.org", some "Ada", none, none, ["staff"], .oidc⟩
    let p : Policy := ⟨"member", true, { oidc := "\x7b\"staff\": \"admin\"\x7d" }⟩
    let s : Store := ⟨[⟨"member", "Member"⟩, ⟨"admin", "Admin"⟩],
      [{ id := ⟨1⟩, email := "ada@example.org", role := "member" }]⟩
    (∃ u ∈ s.users, answers a.normalizedEmail u = true) ∧ p.provisioning = true ∧
      s.findRole p.defaultRole = .ok (some ⟨"member", "Member"⟩) ∧
      ((reconcile p ⟨2⟩ 1 a).start s).1 = ((reconcile p ⟨3⟩ 0 a).start s).1 ∧
      ((reconcile p ⟨2⟩ 1 a).start s).2.store = ((reconcile p ⟨3⟩ 0 a).start s).2.store ∧
      s.insert (newUser ⟨2⟩ ⟨"member", "Member"⟩ a) = .error .conflict := by
  intro a p s
  have present : ∃ u ∈ s.users, answers a.normalizedEmail u = true := by decide +kernel
  exact ⟨present, rfl, rfl, reconcile_of_lost_race present rfl rfl ⟨2⟩ ⟨3⟩⟩

end FederatedLogin.Reconcile
