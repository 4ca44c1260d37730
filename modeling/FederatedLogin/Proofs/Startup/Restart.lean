import FederatedLogin.Proofs.Password
import FederatedLogin.Proofs.Startup
import FederatedLogin.Proofs.Store.Seeding

/-!
# Starting again

A start that succeeds has added the missing roles among the wanted ones, and a first user only where
there was none and an administrator's role exists. What it leaves is `Settled`: the wanted roles are
stored, and there is a user or no role for a first one. A start from there succeeds and changes
nothing (`run_of_settled`), so a service can be started any number of times
(`store_of_start`).

Nothing is assumed of the store but that the start succeeds.
-/

namespace FederatedLogin.Startup

variable {c : Settings} {id : Uuid} {salt : String} {s s' : Store} {tables tables' : Option Store}
  {q q' : Progress} {ns : List Notice}

/-! ### The wanted roles -/

/-- A start makes sure of the role of a slug. -/
def Wanted (c : Settings) (slug : String) : Prop := slug ∈ c.seedRoles ∨ slug = c.defaultRoleSlug

theorem mem_wantedRoles {slug : String} : slug ∈ c.wantedRoles ↔ Wanted c slug := by
  rw [Settings.wantedRoles, Store.foldl_eq_append_missing, List.nil_append, Store.mem_missing,
    List.mem_append, List.mem_singleton]
  exact and_iff_left List.not_mem_nil

/-- The roles of a store after a start: those from before, and behind them the wanted ones that were
missing, each once. -/
structure Seeded (c : Settings) (s s' : Store) : Prop where
  roles : ∃ added : List String, s'.roles = s.roles ++ added.map Role.ofSlug ∧ added.Nodup ∧
    ∀ slug, slug ∈ added ↔ Wanted c slug ∧ slug ∉ s.slugs
  stored : ∀ slug, Wanted c slug → slug ∈ s'.slugs

theorem seeded_ensureRoles (c : Settings) (s : Store) :
    Seeded c s (s.ensureRoles c.wantedRoles).1 where
  roles := by
    refine ⟨Store.missing s.slugs c.wantedRoles, ?_, Store.nodup_missing _ _, fun slug => ?_⟩
    · rw [Store.ensureRoles_eq]
    · rw [Store.mem_missing, mem_wantedRoles]
  stored := fun slug hslug => Store.mem_slugs_ensureRoles.mpr (.inr (mem_wantedRoles.mpr hslug))

/-! ### The first user -/

/-- A user is the administrator whom the settings describe. -/
structure FirstAdmin (c : Settings) (u : User) : Prop where
  email : u.email = Text.lower c.adminEmail
  role : u.role = adminSlug
  active : u.isActive = true
  isLocal : u.provider = "local" ∧ u.externalId = none
  password : ∃ hash, u.hashedPassword = some hash ∧ Password.check c.adminPassword hash = true

theorem firstAdmin_firstUser {role : Role} {hash : String}
    (found : s.roles.find? (·.slug == adminSlug) = some role)
    (hashed : Password.hash salt c.adminPassword = .ok hash) :
    FirstAdmin c (firstUser c id role hash) where
  email := rfl
  role := by
    have hslug := List.find?_some found
    exact beq_iff_eq.mp hslug
  active := rfl
  isLocal := ⟨rfl, rfl⟩
  password := ⟨hash, rfl, Password.check_of_hash hashed⟩

theorem find?_admin_eq_none_iff :
    s.roles.find? (·.slug == adminSlug) = none ↔ adminSlug ∉ s.slugs := by
  rw [List.find?_eq_none, Store.mem_slugs, not_exists]
  exact forall_congr' fun r => by rw [not_and, beq_iff_eq]

/-- A first step that succeeds is one of those of `Bootstrapped`, in any store. -/
theorem bootstrapped_of_exec (h : (bootstrapAdmin c id salt).exec q = (.ok (), q')) :
    ∃ ns, Bootstrapped c id salt q.store (.ok ()) q'.store ns := by
  obtain ⟨s, n⟩ := q
  by_cases users : s.users = []
  swap
  · simp only [bootstrapAdmin, Action.exec_bind, Action.exec_store, List.isEmpty_iff, users,
      if_false, Action.exec_pure] at h
    obtain rfl := (Prod.mk.inj h).2
    exact ⟨_, .populated users⟩
  simp only [bootstrapAdmin, Action.exec_bind, Action.exec_store, users, List.isEmpty_nil, if_true,
    Action.exec_findRole] at h
  -- The store need not meet its constraints, so the role may be ambiguous; then the step fails.
  rcases hrole : s.findRole adminSlug with fault | _ | role
  · simp only [hrole, mapError_error] at h
    cases (Prod.mk.inj h).1
  · simp only [hrole, mapError_ok, Action.exec_report] at h
    obtain rfl := (Prod.mk.inj h).2
    exact ⟨_, .noRole users (Store.find?_of_oneOrNone hrole)⟩
  have found := Store.find?_of_oneOrNone hrole
  simp only [hrole, mapError_ok, Action.exec_bind, Action.exec_of, Action.exec_store] at h
  rcases hhash : Password.hash salt c.adminPassword with refusal | hash
  · simp only [hhash, mapError_error] at h
    cases (Prod.mk.inj h).1
  · have hinsert := insert_of_users_eq_nil c id users (List.mem_of_find?_eq_some found) hash
    simp only [hhash, mapError_ok, hinsert, Action.exec_put, Action.exec_report] at h
    obtain rfl := (Prod.mk.inj h).2
    exact ⟨_, .created users found hhash⟩

/-! ### Settled stores -/

/-- A start has nothing to do: the wanted roles are stored, and there is a user, or no role for a
first one. -/
structure Settled (c : Settings) (s : Store) : Prop where
  roles : ∀ slug, Wanted c slug → slug ∈ s.slugs
  users : s.users ≠ [] ∨ adminSlug ∉ s.slugs

/-- Once the wanted roles are stored, a first step that succeeds settles the store. -/
theorem Bootstrapped.settled (stored : ∀ slug, Wanted c slug → slug ∈ s.slugs)
    (hb : Bootstrapped c id salt s (.ok ()) s' ns) : Settled c s' := by
  cases hb with
  | populated users => exact ⟨stored, .inl users⟩
  | noRole users missing => exact ⟨stored, .inr (find?_admin_eq_none_iff.mp missing)⟩
  | created => exact ⟨stored, .inl (List.cons_ne_nil _ _)⟩

theorem Settled.exec_bootstrapAdmin (h : Settled c s) (id : Uuid) (salt : String)
    (n : List Notice) :
    ∃ ns, (bootstrapAdmin c id salt).exec ⟨s, n⟩ = (.ok (), ⟨s, n ++ ns⟩) := by
  by_cases users : s.users = []
  swap
  · exact ⟨[], by simp [bootstrapAdmin, users]⟩
  have absent : adminSlug ∉ s.slugs := h.users.resolve_left (not_not.mpr users)
  have missing : s.findRole adminSlug = .ok none := by
    rw [Store.findRole, Store.oneOrNone_eq_none_iff, List.filter_eq_nil_iff, ← List.find?_eq_none]
    exact find?_admin_eq_none_iff.mpr absent
  exact ⟨[.bootstrapSkipped], by simp [bootstrapAdmin, users, missing]⟩

/-- A start succeeds if its first step does after the missing roles were added. -/
theorem run_of_exec (hboot : ∀ n, ∃ ns, (bootstrapAdmin c id salt).exec
      ⟨(s.ensureRoles c.wantedRoles).1, n⟩ = (.ok (), ⟨s', ns⟩)) :
    ∃ ns, Startup.run c id salt (some s) = (.ok (), some s', ns) := by
  obtain ⟨ns, hexec⟩ := hboot _
  have hstart : (startup c id salt).start s = (.ok (), ⟨s', ns ++ [.stopped]⟩) := by
    rw [Action.start_eq, startup, Action.exec_bind, Action.exec_ensureRoles]
    simp only [Action.exec_bind]
    rw [hexec]
    exact Action.exec_report _ _ _
  exact ⟨.starting c.appDebug :: (ns ++ [.stopped]), by rw [Startup.run, Action.startOn, hstart]⟩

/-- A start leaves a settled store as it is. -/
theorem run_of_settled (h : Settled c s) (id : Uuid) (salt : String) :
    ∃ ns, Startup.run c id salt (some s) = (.ok (), some s, ns) := by
  have hroles : s.ensureRoles c.wantedRoles = (s, []) :=
    Store.ensureRoles_of_stored fun slug hslug => h.roles slug (mem_wantedRoles.mp hslug)
  refine run_of_exec fun n => ?_
  obtain ⟨ns, hboot⟩ := h.exec_bootstrapAdmin id salt n
  exact ⟨_, by rw [hroles]; exact hboot⟩

/-- In a store that meets its constraints, a start succeeds where its first step can. -/
theorem Bootstrapped.run (h : s.Consistent)
    (hb : Bootstrapped c id salt (s.ensureRoles c.wantedRoles).1 (.ok ()) s' ns) :
    ∃ ns, Startup.run c id salt (some s) = (.ok (), some s', ns) :=
  run_of_exec fun n => ⟨n ++ ns, hb.exec (h.writes (Store.writes_ensureRoles s _)) n⟩

/-- A start that succeeds finds tables, adds the missing roles to them, and creates the first user
or not. -/
theorem bootstrapped_of_run (started : Startup.run c id salt tables = (.ok (), tables', ns)) :
    ∃ s s' ns', tables = some s ∧ tables' = some s' ∧
      Bootstrapped c id salt (s.ensureRoles c.wantedRoles).1 (.ok ()) s' ns' := by
  rcases tables with _ | s
  · cases (Prod.mk.inj started).1
  rcases hstart : (startup c id salt).start s with ⟨r, s', n⟩
  rw [Startup.run, Action.startOn, hstart] at started
  obtain ⟨rfl, hrest⟩ := Prod.mk.inj started
  obtain ⟨rfl, -⟩ := Prod.mk.inj hrest
  rw [Action.start_eq, startup, Action.exec_bind, Action.exec_ensureRoles] at hstart
  simp only [Action.exec_bind] at hstart
  rcases hboot : (bootstrapAdmin c id salt).exec ⟨(s.ensureRoles c.wantedRoles).1, _⟩ with ⟨r, q⟩
  rw [hboot] at hstart
  rcases r with failure | _
  · cases (Prod.mk.inj hstart).1
  · obtain ⟨ns', hb⟩ := bootstrapped_of_exec hboot
    have hstore := congrArg Progress.store (Prod.mk.inj hstart).2
    exact ⟨s, _, ns', rfl, rfl, hstore ▸ hb⟩

/-! ### A start and the next one -/

/-- A start that succeeds leaves every stored role and user as they are. It adds the wanted roles
that are missing, and the administrator of the settings if there were no users and an
administrator's role is then stored. Every further start succeeds as well and changes nothing. -/
theorem store_of_start (started : Startup.run c id salt tables = (.ok (), tables', ns)) :
    ∃ s s', tables = some s ∧ tables' = some s' ∧ Seeded c s s' ∧
      (s.users = [] ∧ adminSlug ∈ s'.slugs → ∃ u, s'.users = [u] ∧ FirstAdmin c u) ∧
      (¬(s.users = [] ∧ adminSlug ∈ s'.slugs) → s'.users = s.users) ∧
      ∀ id' salt', ∃ ns', Startup.run c id' salt' tables' = (.ok (), tables', ns') := by
  obtain ⟨s, s', n, rfl, rfl, hboot⟩ := bootstrapped_of_run started
  have seeded := seeded_ensureRoles c s
  have husers := s.ensureRoles_users c.wantedRoles
  have settled := run_of_settled (hboot.settled seeded.stored)
  refine ⟨s, s', rfl, rfl, ?_⟩
  -- Of the store in between only its users and what was seeded matter from here on.
  generalize (s.ensureRoles c.wantedRoles).1 = between at hboot seeded husers
  cases hboot with
  | populated users =>
    refine ⟨seeded, fun ⟨empty, _⟩ => ?_, fun _ => husers, settled⟩
    exact absurd (husers.trans empty) users
  | noRole _ missing =>
    refine ⟨seeded, fun ⟨_, present⟩ => ?_, fun _ => husers, settled⟩
    exact absurd present (find?_admin_eq_none_iff.mp missing)
  | created users found hashed =>
    have present : adminSlug ∈ between.slugs := by
      by_contra absent
      rw [find?_admin_eq_none_iff.mpr absent] at found
      cases found
    refine ⟨⟨seeded.roles, seeded.stored⟩, fun _ => ?_, fun unchanged => ?_, settled⟩
    · exact ⟨_, rfl, firstAdmin_firstUser found hashed⟩
    · exact absurd ⟨husers.symm.trans users, present⟩ unchanged

/-! ### A first start -/

/-- Settings of a hash, as they are drawn for the first user's password. -/
def firstSalt : String := "$2b$04$abcdefghijklmnopqrstuu"

/-- A store with a role that nobody asked for, and without users. -/
def audited : Store where
  roles := [Role.ofSlug "auditor"]
  users := []

/-- A first start with the default settings succeeds. It leaves the role that was there, adds the
three roles of the settings, and creates the administrator; a second start under another identifier
changes nothing. -/
theorem store_of_start_audited :
    ∃ s' ns, Startup.run {} ⟨1⟩ firstSalt (some audited) = (.ok (), some s', ns) ∧
      s'.slugs = ["auditor", "owner", "admin", "member"] ∧
      (∃ u, s'.users = [u] ∧ u.email = "admin@localhost" ∧ FirstAdmin {} u) ∧
      ∃ ns', Startup.run {} ⟨2⟩ firstSalt (some s') = (.ok (), some s', ns') := by
  have consistent : audited.Consistent := ⟨by decide, by decide, by decide⟩
  have slugs : (audited.ensureRoles ({} : Settings).wantedRoles).1.slugs =
      ["auditor", "owner", "admin", "member"] := by decide +kernel
  obtain ⟨hash, hashed⟩ : ∃ hash, Password.hash firstSalt ({} : Settings).adminPassword =
      .ok hash := by
    have fits : ¬Password.maxBytes < ({} : Settings).adminPassword.utf8ByteSize := by
      decide +kernel
    obtain ⟨read, hread⟩ : ∃ read, Password.settings? firstSalt = some read :=
      Option.isSome_iff_exists.mp (by decide +kernel)
    exact ⟨_, by rw [Password.hash, if_neg fits, hread]⟩
  have found : (audited.ensureRoles ({} : Settings).wantedRoles).1.roles.find?
      (·.slug == adminSlug) = some (Role.ofSlug adminSlug) := by decide +kernel
  have created : Bootstrapped {} ⟨1⟩ firstSalt _ (.ok ()) _ _ := .created rfl found hashed
  obtain ⟨ns, started⟩ := created.run consistent
  obtain ⟨s, s', hs, hs', -, admin, -, again⟩ := store_of_start started
  obtain rfl := Option.some.inj hs
  obtain rfl := Option.some.inj hs'
  obtain ⟨u, hu, first⟩ := admin ⟨rfl, slugs ▸ by decide⟩
  have email : u.email = "admin@localhost" := first.email.trans (by decide +kernel)
  exact ⟨_, ns, started, slugs, ⟨u, hu, email, first⟩, again ⟨2⟩ firstSalt⟩

end FederatedLogin.Startup
