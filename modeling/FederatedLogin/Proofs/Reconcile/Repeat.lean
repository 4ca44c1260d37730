import FederatedLogin.Proofs.Reconcile.Result

/-!
# Reconciling again

The result of a reconciliation is a fixed point: the account is found again by the asserted email,
it has the asserted names already (`refreshed_refreshed`), and the same asserted role decides
(`RoleStep.again`). So the same assertion gives the same user and leaves the store as it is, however
often it is reconciled after it was once (`reconcile_again`).
-/

namespace FederatedLogin.Reconcile

open Store (Consistent answers)

variable {p : Policy} {id : Uuid} {stale : Nat} {a : Assertion} {s s' : Store} {u v : User}
  {ns : List Notice}

/-! ### Fixed points of the stages -/

theorem renamed_renamed (asserted : Option String) (known : String) :
    renamed asserted (renamed asserted known) = renamed asserted known := by
  rcases asserted with _ | name
  · rfl
  · simp only [renamed]
    split <;> rfl

/-- Asserting names a second time changes nothing. -/
theorem refreshed_refreshed (v : User) (a : Assertion) :
    refreshed (refreshed v a) a = refreshed v a := by
  simp only [refreshed, renamed_renamed]

/-- A stored user that answers to the asserted email and has the asserted names is an account that
is found as it is. -/
theorem Account.of_mem (h : s.Consistent) (hu : u ∈ s.users)
    (hanswers : answers a.normalizedEmail u = true) (hnames : refreshed u a = u) (p : Policy)
    (id : Uuid) : Account p id 0 a s (.ok u) s [] := by
  have hfound : s.users.find? (answers a.normalizedEmail) = some u :=
    Except.ok.inj ((h.findByEmail_eq _).symm.trans (h.findByEmail_of_mem hu hanswers))
  have hknown : Account p id 0 a s (.ok (refreshed u a)) (s.replace (refreshed u a)) [] :=
    .known hfound
  rwa [hnames, h.replace_self hu] at hknown

/-- The second stage gives the user it has given before, and has nothing to write. -/
theorem RoleStep.again (h : s'.Consistent) (hmem : v ∈ s'.users)
    (hr : RoleStep p a s u (.ok v) s' ns) : RoleStep p a s' v (.ok v) s' ns := by
  cases hr with
  | noRoles unasserted => exact .noRoles unasserted
  | noMapping asserted text => exact .noMapping asserted text
  | noMatch mapped => exact .noMatch mapped
  | roleMissing mapped isText missing => exact .roleMissing mapped isText missing
  | @assigned slug role mapped isText found =>
    have hassigned : RoleStep p a (s.replace (withRole u role.slug)) (withRole u role.slug)
        (.ok (withRole u role.slug))
        ((s.replace (withRole u role.slug)).replace (withRole u role.slug)) [] :=
      .assigned mapped isText found
    rwa [h.replace_self hmem] at hassigned

/-- A successful reconciliation can be done again, with the same result. -/
theorem Reconciled.again (h : s.Consistent) (hr : Reconciled p id stale a s (.ok u) s' ns)
    (id' : Uuid) : ∃ ns', Reconciled p id' 0 a s' (.ok u) s' ns' := by
  have hconsistent := h.writes (hr.writes h)
  cases hr with
  | account account roleStep =>
    obtain ⟨v, -, rfl⟩ := account.previous h
    obtain ⟨hmem, slug, rfl⟩ := roleStep.stored account.mem
    have hnames : refreshed (withRole (refreshed v a) slug) a = withRole (refreshed v a) slug :=
      congrArg (withRole · slug) (refreshed_refreshed v a)
    exact ⟨_, .account (.of_mem hconsistent hmem account.answers_email hnames p id')
      (roleStep.again hconsistent hmem)⟩

/-! ### Any number of repetitions -/

/-- After a successful reconciliation, the same assertion can be reconciled any number of times,
with whatever identifiers for new users. Each time it succeeds and gives back the same user, and the
store stays as the first time left it. -/
theorem reconcile_again (h : s.Consistent)
    (done : (reconcile p id stale a).start s = (.ok u, ⟨s', ns⟩)) (ids : List Uuid) :
    ∃ ns', (ids.mapM fun id' => reconcile p id' 0 a).start s' =
      (.ok (ids.map fun _ => u), ⟨s', ns'⟩) := by
  have hr := (start_eq_iff h).mp done
  have hconsistent := h.writes (hr.writes h)
  -- The reports pile up, so the induction is about runs that start with any reports.
  suffices hrun : ∀ n, ∃ ns', (ids.mapM fun id' => reconcile p id' 0 a).exec ⟨s', n⟩ =
      (.ok (ids.map fun _ => u), ⟨s', ns'⟩) from hrun []
  induction ids with
  | nil => exact fun n => ⟨n, rfl⟩
  | cons id' ids ih =>
    intro n
    obtain ⟨ns₁, hagain⟩ := hr.again h id'
    obtain ⟨ns₂, hrest⟩ := ih (n ++ ns₁)
    refine ⟨ns₂, ?_⟩
    rw [List.mapM_cons, Action.exec_bind, hagain.exec hconsistent]
    simp only [Action.exec_bind, hrest, Action.exec_pure, List.map_cons]

/-- A login that created its user and gave it a mapped role is done twice more. -/
theorem reconcile_again_grace :
    ∃ u s' ns, office.Consistent ∧
      (reconcile staffPolicy ⟨2⟩ 0 grace).start office = (.ok u, ⟨s', ns⟩) ∧ u.role = "admin" ∧
      ∃ ns', ([⟨3⟩, ⟨4⟩].mapM fun id' => reconcile staffPolicy id' 0 grace).start s' =
        (.ok [u, u], ⟨s', ns'⟩) := by
  obtain ⟨s', ns, hreconciled⟩ := reconciled_grace
  have done := (start_eq_iff consistent_office).mpr hreconciled
  exact ⟨_, s', ns, consistent_office, done, rfl,
    reconcile_again consistent_office done [⟨3⟩, ⟨4⟩]⟩

end FederatedLogin.Reconcile
