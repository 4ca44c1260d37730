import FederatedLogin.Proofs.Results
import FederatedLogin.Store.Action

/-!
# Running an action step by step

`Action.exec` runs an action from any progress; `Action.start` is the run from a store about which
nothing has been reported yet. The equations of this module take such a run apart along the action:
one for each way to build an action, all of them rules for the simplifier.
-/

namespace FederatedLogin.Action

variable {ε ε' α β : Type}

/-- Run an action from where things stand. -/
def exec (a : Action ε α) (p : Progress) : Except ε α × Progress := a.run.run p

theorem start_eq (a : Action ε α) (s : Store) : a.start s = a.exec ⟨s, []⟩ := rfl

@[simp]
theorem exec_pure (x : α) (p : Progress) : (pure x : Action ε α).exec p = (.ok x, p) := rfl

/-- A second action starts where the first one ends, unless that ends in an error. -/
@[simp]
theorem exec_bind (a : Action ε α) (f : α → Action ε β) (p : Progress) :
    (a >>= f).exec p = match a.exec p with
      | (.ok x, q) => (f x).exec q
      | (.error e, q) => (.error e, q) := by
  simp only [exec, ExceptT.run_bind, StateT.run_bind]
  -- What is left is the branch on the first result, inside of the second run.
  change (match (a.run.run p).1 with
    | .ok x => (f x).run
    | .error e => pure (.error e)).run (a.run.run p).2 = _
  rcases a.run.run p with ⟨r, q⟩
  cases r <;> rfl

@[simp]
theorem exec_map (f : α → β) (a : Action ε α) (p : Progress) :
    (f <$> a).exec p = ((a.exec p).1.map f, (a.exec p).2) := by
  rw [← bind_pure_comp, exec_bind]
  rcases a.exec p with ⟨r, q⟩
  cases r <;> rfl

@[simp]
theorem exec_fail (e : ε) (p : Progress) : (fail e : Action ε α).exec p = (.error e, p) := rfl

@[simp]
theorem exec_of (r : Except ε α) (p : Progress) : (of r : Action ε α).exec p = (r, p) := rfl

@[simp]
theorem exec_report (n : Notice) (s : Store) (ns : List Notice) :
    (report n : Action ε Unit).exec ⟨s, ns⟩ = (.ok (), ⟨s, ns ++ [n]⟩) := rfl

@[simp]
theorem exec_store (p : Progress) : (store : Action ε Store).exec p = (.ok p.store, p) := rfl

@[simp]
theorem exec_put (s : Store) (p : Progress) :
    (put s : Action ε Unit).exec p = (.ok (), { p with store := s }) := rfl

/-- Running an action inside another one hands its error on as a value. -/
@[simp]
theorem exec_run (a : Action ε α) (p : Progress) :
    (liftM a.run : Action ε' (Except ε α)).exec p = (.ok (a.exec p).1, (a.exec p).2) := rfl

@[simp]
theorem exec_findUser (lift : Store.Fault → ε) (email : String) (p : Progress) :
    (findUser lift email).exec p = ((p.store.findByEmail email).mapError lift, p) := rfl

@[simp]
theorem exec_findRole (lift : Store.Fault → ε) (slug : String) (p : Progress) :
    (findRole lift slug).exec p = ((p.store.findRole slug).mapError lift, p) := rfl

/-- A save that the constraints refuse leaves the store as it is. -/
@[simp]
theorem exec_save (lift : Store.Fault → ε) (u : User) (p : Progress) :
    (save lift u).exec p = match p.store.update u with
      | .ok s => (.ok u, { p with store := s })
      | .error f => (.error (lift f), p) := by
  simp only [save, exec_bind, exec_store, exec_of]
  cases p.store.update u <;> rfl

/-- Adding roles never fails; it is reported if any were missing. -/
theorem exec_ensureRoles (slugs : List String) (s : Store) (ns : List Notice) :
    (ensureRoles slugs : Action ε (List Role)).exec ⟨s, ns⟩ =
      (.ok (s.ensureRoles slugs).2, ⟨(s.ensureRoles slugs).1,
        ns ++ if (s.ensureRoles slugs).2.isEmpty then []
          else [.rolesCreated ((s.ensureRoles slugs).2.map (·.slug))]⟩) := by
  rcases h : s.ensureRoles slugs with ⟨s', added⟩
  cases added <;> simp [ensureRoles, h, Except.map]

/-! ### Reports -/

/-- What an action reports is added to what has been reported, and changes nothing else. -/
def Appends (a : Action ε α) : Prop :=
  ∀ s, ∃ r s' ns, ∀ n, a.exec ⟨s, n⟩ = (r, ⟨s', n ++ ns⟩)

variable {a : Action ε α} {f : α → Action ε β}

theorem appends_pure (x : α) : Appends (pure x : Action ε α) :=
  fun s => ⟨.ok x, s, [], fun n => by simp⟩

theorem appends_fail (e : ε) : Appends (fail e : Action ε α) :=
  fun s => ⟨.error e, s, [], fun n => by simp⟩

theorem appends_of (r : Except ε α) : Appends (of r : Action ε α) :=
  fun s => ⟨r, s, [], fun n => by simp⟩

theorem appends_report (m : Notice) : Appends (report m : Action ε Unit) :=
  fun s => ⟨.ok (), s, [m], fun n => by simp⟩

theorem appends_store : Appends (store : Action ε Store) :=
  fun s => ⟨.ok s, s, [], fun n => by simp⟩

theorem appends_put (s' : Store) : Appends (put s' : Action ε Unit) :=
  fun _ => ⟨.ok (), s', [], fun n => by simp⟩

/-- Appending is kept by sequencing. -/
theorem Appends.bind (ha : Appends a) (hf : ∀ x, Appends (f x)) : Appends (a >>= f) := by
  intro s
  obtain ⟨r, s₁, ns₁, hexec₁⟩ := ha s
  rcases r with e | x
  · exact ⟨.error e, s₁, ns₁, fun n => by rw [exec_bind, hexec₁]⟩
  · obtain ⟨r, s₂, ns₂, hexec₂⟩ := hf x s₁
    refine ⟨r, s₂, ns₁ ++ ns₂, fun n => ?_⟩
    rw [exec_bind, hexec₁, ← List.append_assoc]
    exact hexec₂ _

theorem Appends.ite {c : Prop} [Decidable c] {b : Action ε α} (ha : Appends a) (hb : Appends b) :
    Appends (if c then a else b) := by
  split
  · exact ha
  · exact hb

theorem appends_findUser (lift : Store.Fault → ε) (email : String) :
    Appends (findUser lift email) :=
  fun s => ⟨(s.findByEmail email).mapError lift, s, [], fun n => by simp⟩

theorem appends_findRole (lift : Store.Fault → ε) (slug : String) :
    Appends (findRole lift slug) :=
  fun s => ⟨(s.findRole slug).mapError lift, s, [], fun n => by simp⟩

/-- A save changes the store and leaves the notices alone. -/
theorem appends_save (lift : Store.Fault → ε) (u : User) : Appends (save lift u) := by
  intro s
  rcases hupdate : s.update u with e | s'
  · exact ⟨.error (lift e), s, [], fun n => by simp [hupdate]⟩
  · exact ⟨.ok u, s', [], fun n => by simp [hupdate]⟩

/-- What was reported before makes no difference to the result and to the store. -/
theorem Appends.exec_eq (ha : Appends a) (s : Store) (n m : List Notice) :
    (a.exec ⟨s, n⟩).1 = (a.exec ⟨s, m⟩).1 ∧
      (a.exec ⟨s, n⟩).2.store = (a.exec ⟨s, m⟩).2.store := by
  obtain ⟨r, s', ns, hexec⟩ := ha s
  rw [hexec, hexec]
  exact ⟨rfl, rfl⟩

/-! ### Failures -/

/-- An action leaves the store as it is, however it ends. -/
def ReadsOnly (a : Action ε α) : Prop := ∀ q, (a.exec q).2.store = q.store

/-- An action that fails does so for a reason of some kind, and it has left the store as it was. -/
def FailsCleanly (kind : ε → Prop) (a : Action ε α) : Prop :=
  ∀ q e, (a.exec q).1 = .error e → kind e ∧ (a.exec q).2.store = q.store

variable {kind : ε → Prop}

theorem readsOnly_pure (x : α) : ReadsOnly (pure x : Action ε α) := fun _ => rfl

theorem readsOnly_store : ReadsOnly (store : Action ε Store) := fun _ => rfl

theorem readsOnly_report (n : Notice) : ReadsOnly (report n : Action ε Unit) := fun _ => rfl

theorem readsOnly_of (r : Except ε α) : ReadsOnly (of r : Action ε α) := fun _ => rfl

theorem readsOnly_findUser (lift : Store.Fault → ε) (email : String) :
    ReadsOnly (findUser lift email) := fun _ => rfl

theorem readsOnly_findRole (lift : Store.Fault → ε) (slug : String) :
    ReadsOnly (findRole lift slug) := fun _ => rfl

theorem readsOnly_fail (e : ε) : ReadsOnly (fail e : Action ε α) := fun _ => rfl

/-- What only reads after an action leaves the store as the action has left it. -/
theorem store_exec_bind (hf : ∀ x, ReadsOnly (f x)) (q : Progress) :
    ((a >>= f).exec q).2.store = (a.exec q).2.store := by
  rw [exec_bind]
  rcases a.exec q with ⟨r, q'⟩
  cases r with
  | ok x => exact hf x q'
  | error e => rfl

/-- Reading only is kept by sequencing. -/
theorem ReadsOnly.bind (ha : ReadsOnly a) (hf : ∀ x, ReadsOnly (f x)) : ReadsOnly (a >>= f) :=
  fun q => (store_exec_bind hf q).trans (ha q)

theorem ReadsOnly.ite {c : Prop} [Decidable c] {b : Action ε α} (ha : ReadsOnly a)
    (hb : ReadsOnly b) : ReadsOnly (if c then a else b) := by
  split
  · exact ha
  · exact hb

/-- What never fails, never fails uncleanly. -/
theorem failsCleanly_of_ok (h : ∀ q, ∃ x q', a.exec q = (.ok x, q')) : FailsCleanly kind a := by
  intro q e hfail
  obtain ⟨x, q', hexec⟩ := h q
  rw [hexec] at hfail
  exact absurd hfail nofun

theorem failsCleanly_pure (x : α) : FailsCleanly kind (pure x : Action ε α) :=
  failsCleanly_of_ok fun q => ⟨x, q, rfl⟩

theorem failsCleanly_store : FailsCleanly kind (store : Action ε Store) :=
  failsCleanly_of_ok fun q => ⟨q.store, q, rfl⟩

theorem failsCleanly_report (n : Notice) : FailsCleanly kind (report n : Action ε Unit) :=
  failsCleanly_of_ok fun _ => ⟨(), _, rfl⟩

theorem failsCleanly_of {r : Except ε α} (h : ∀ e, r = .error e → kind e) :
    FailsCleanly kind (of r : Action ε α) := fun _ e hfail => ⟨h e hfail, rfl⟩

theorem failsCleanly_fail {e : ε} (h : kind e) : FailsCleanly kind (fail e : Action ε α) :=
  failsCleanly_of fun _ he => Except.error.inj he ▸ h

/-- A lookup of users writes nothing, so it fails cleanly. -/
theorem failsCleanly_findUser {lift : Store.Fault → ε} (h : ∀ fault, kind (lift fault))
    (email : String) : FailsCleanly kind (findUser lift email) := by
  intro q e hfail
  obtain ⟨fault, -, rfl⟩ := mapError_eq_error.mp hfail
  exact ⟨h fault, rfl⟩

theorem failsCleanly_findRole {lift : Store.Fault → ε} (h : ∀ fault, kind (lift fault))
    (slug : String) : FailsCleanly kind (findRole lift slug) := by
  intro q e hfail
  obtain ⟨fault, -, rfl⟩ := mapError_eq_error.mp hfail
  exact ⟨h fault, rfl⟩

/-- A user that the store refuses is not stored in part. -/
theorem failsCleanly_save {lift : Store.Fault → ε} (h : ∀ fault, kind (lift fault)) (u : User) :
    FailsCleanly kind (save lift u) := by
  intro q e hfail
  rw [exec_save] at hfail ⊢
  rcases hupdate : q.store.update u with fault | s'
  · rw [hupdate] at hfail
    obtain rfl := Except.error.inj hfail
    exact ⟨h fault, rfl⟩
  · rw [hupdate] at hfail
    exact absurd hfail nofun

/-- What is done after reading alone fails cleanly as a whole if its parts do. -/
theorem FailsCleanly.bind (hreads : ReadsOnly a) (ha : FailsCleanly kind a)
    (hf : ∀ x, FailsCleanly kind (f x)) : FailsCleanly kind (a >>= f) := by
  intro q e hfail
  have hstore := hreads q
  have hfirst := ha q
  rw [exec_bind] at hfail ⊢
  rcases hexec : a.exec q with ⟨r, q'⟩
  simp only [hexec] at hfail hstore hfirst ⊢
  rcases r with e' | x
  · obtain rfl := Except.error.inj hfail
    exact hfirst _ rfl
  · obtain ⟨hkind, hrest⟩ := hf x q' e hfail
    exact ⟨hkind, hrest.trans hstore⟩

theorem FailsCleanly.ite {c : Prop} [Decidable c] {b : Action ε α} (ha : FailsCleanly kind a)
    (hb : FailsCleanly kind b) : FailsCleanly kind (if c then a else b) := by
  split
  · exact ha
  · exact hb

end FederatedLogin.Action
