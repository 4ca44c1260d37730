import FederatedLogin.Proofs.Reconcile.LostRace
import FederatedLogin.Proofs.Reconcile.Outcome
import FederatedLogin.Proofs.RoleMapping.Resolution

/-!
# What a successful reconciliation gives

A reconciliation starts from a `Previous` user: the one that the asserted email finds, or a new one
with the default role and without names. `Account.previous` says that the account is this user under
the asserted names, whether it was found, created, or found after a lost race.

The role comes about as `Assigned` says, with at most one diagnostic. `reconcile_result` puts both
together: it describes every column of the user that is given back, in every store that meets its
constraints and for any number of look-ups that do not see the user.
-/

namespace FederatedLogin.Reconcile

open Store (Consistent answers)

variable {p : Policy} {id : Uuid} {stale : Nat} {a : Assertion} {s s' : Store} {u v : User}
  {ns : List Notice}

/-! ### The user before -/

/-- A new user, before any name is known: it cannot log in locally, and it carries the provider and
the provider's own id. -/
def unnamed (id : Uuid) (slug : String) (a : Assertion) : User where
  id := id
  email := a.normalizedEmail
  firstName := ""
  lastName := ""
  role := slug
  hashedPassword := none
  isActive := true
  provider := a.provider.name
  externalId := a.externalId

/-- The user that a reconciliation starts from. -/
inductive Previous (p : Policy) (id : Uuid) (a : Assertion) (s : Store) : User → Prop
  | known {v : User} (found : s.findByEmail a.normalizedEmail = .ok (some v)) : Previous p id a s v
  | new {role : Role} (absent : s.findByEmail a.normalizedEmail = .ok none)
      (default : s.findRole p.defaultRole = .ok (some role)) :
      Previous p id a s (unnamed id role.slug a)

/-- A name as asserted, if that is not blank, and else the one known before. -/
inductive Named (asserted : Option String) (known : String) : String → Prop
  | given {name : String} (given : asserted = some name) (nonempty : name ≠ "") :
      Named asserted known name
  | kept (blank : ∀ name, asserted = some name → name = "") : Named asserted known known

theorem named_renamed (asserted : Option String) (known : String) :
    Named asserted known (renamed asserted known) := by
  rcases asserted with _ | name
  · exact .kept nofun
  · rw [renamed]
    split
    · rename_i hempty
      exact .kept fun other h => Option.some.inj h ▸ String.isEmpty_iff.mp hempty
    · rename_i hfull
      exact .given rfl fun h => hfull (String.isEmpty_iff.mpr h)

/-- There is no other name that an asserted one leads to. -/
theorem named_iff {asserted : Option String} {known name : String} :
    Named asserted known name ↔ name = renamed asserted known := by
  constructor
  · rintro (⟨rfl, nonempty⟩ | blank)
    · exact (if_neg (mt String.isEmpty_iff.mp nonempty)).symm
    · rcases asserted with _ | name
      · rfl
      · exact (if_pos (String.isEmpty_iff.mpr (blank name rfl))).symm
  · rintro rfl
    exact named_renamed asserted known

/-- A new user is created under the asserted names. -/
theorem newUser_eq_refreshed (id : Uuid) (role : Role) (a : Assertion) :
    newUser id role a = refreshed (unnamed id role.slug a) a := by
  have hname (asserted : Option String) : asserted.getD "" = renamed asserted "" := by
    rcases asserted with _ | name
    · rfl
    · rw [renamed, Option.getD_some]
      split
      · rename_i hempty
        exact String.isEmpty_iff.mp hempty
      · rfl
  rw [newUser, refreshed, unnamed, hname, hname]

/-- A user that is created was not to be found before, whatever the look-ups saw. -/
theorem findByEmail_eq_none_of_insert (h : s.Consistent) {role : Role}
    (inserted : s.insert (newUser id role a) = .ok s') :
    s.findByEmail a.normalizedEmail = .ok none := by
  rw [h.findByEmail_eq]
  rcases hfound : s.users.find? (answers a.normalizedEmail) with _ | w
  · rfl
  · have hconflict := insert_newUser_eq_conflict
      ⟨w, List.mem_of_find?_eq_some hfound, List.find?_some hfound⟩ id role
    rw [inserted] at hconflict
    exact absurd hconflict nofun

/-- The account is the user from before under the asserted names. -/
theorem Account.previous (h : s.Consistent) (ha : Account p id stale a s (.ok u) s' ns) :
    ∃ v, Previous p id a s v ∧ u = refreshed v a := by
  cases ha with
  | known found | raced _ _ _ _ found =>
    obtain ⟨hv, hanswers⟩ := seen_eq_some found
    exact ⟨_, .known (h.findByEmail_of_mem hv hanswers), rfl⟩
  | created _ _ default inserted =>
    refine ⟨_, .new (findByEmail_eq_none_of_insert h inserted) ?_, newUser_eq_refreshed id _ a⟩
    rw [h.findRole_eq, default]

/-! ### The role -/

/-- The mapping that is applied to an assertion. -/
def mapping (p : Policy) (a : Assertion) : RoleMapping :=
  match RoleMapping.loadLenient (p.mappings.text a.provider) with
  | .ok (m, _) => m
  | .error _ => []

/-- The diagnostics about the role among what was reported. -/
def roleDiagnostics (ns : List Notice) : List Notice :=
  ns.filter fun
    | .noMappingMatched .. | .mappedRoleMissing .. => true
    | _ => false

/-- How a user who held a role before comes to a role, with the diagnostics about it: the asserted
role that decides gives the local role that its slug names, if it is stored. No other asserted role
is tried. -/
inductive Assigned (m : RoleMapping) (a : Assertion) (s : Store) (v : User) :
    String → List Notice → Prop
  | unasked (unasked : a.externalRoles = [] ∨ m = []) : Assigned m a s v v.role []
  | unmatched (asserted : a.externalRoles ≠ []) (mapping : m ≠ [])
      (undecided : ∀ r slug, ¬m.Decides (a.externalRoles.map Text.ofString) r slug) :
      Assigned m a s v v.role [.noMappingMatched v.email a.provider a.externalRoles]
  | missing {r : Text} {slug : String}
      (decides : m.Decides (a.externalRoles.map Text.ofString) r (Text.ofString slug))
      (missing : ∀ role ∈ s.roles, role.slug ≠ slug) :
      Assigned m a s v v.role [.mappedRoleMissing v.email a.provider slug]
  | given {r : Text} {role : Role}
      (decides : m.Decides (a.externalRoles.map Text.ofString) r (Text.ofString role.slug))
      (stored : role ∈ s.roles) : Assigned m a s v role.slug []

theorem mapping_eq {m : RoleMapping} {refusal : Option RoleMapping.Refusal}
    (text : RoleMapping.loadLenient (p.mappings.text a.provider) = .ok (m, refusal)) :
    mapping p a = m := by
  rw [mapping, text]

/-- What is mapped is what the mapping that is applied resolves to. -/
theorem Mapped.resolve_eq {slug : Option Text} (mapped : Mapped p a slug) :
    mapping p a ≠ [] ∧ (mapping p a).resolve (a.externalRoles.map Text.ofString) = slug := by
  obtain ⟨-, m, hload, hm, hresolve⟩ := mapped
  rw [mapping_eq hload]
  exact ⟨hm, hresolve⟩

/-- A successful second stage assigns the role. -/
theorem RoleStep.assigned_of_ok {u' : User} (hr : RoleStep p a s u (.ok u') s' ns) :
    u' = withRole u u'.role ∧ Assigned (mapping p a) a s u u'.role (roleDiagnostics ns) := by
  cases hr with
  | noRoles unasserted => exact ⟨rfl, .unasked (.inl unasserted)⟩
  | @noMapping refusal asserted text =>
    refine ⟨rfl, ?_⟩
    have hnone : roleDiagnostics (mappingNotices a refusal) = [] := by cases refusal <;> rfl
    rw [hnone]
    exact .unasked (.inr (mapping_eq text))
  | noMatch mapped =>
    obtain ⟨hm, hresolve⟩ := mapped.resolve_eq
    exact ⟨rfl, .unmatched mapped.asserted hm (RoleMapping.resolve_eq_none_iff.mp hresolve)⟩
  | roleMissing mapped isText missing =>
    obtain ⟨r, hdecides⟩ := RoleMapping.resolve_eq_some_iff.mp mapped.resolve_eq.2
    obtain rfl := Text.toString?_eq_some.mp isText
    refine ⟨rfl, .missing hdecides fun role hrole hslug => ?_⟩
    exact List.find?_eq_none.mp missing role hrole (beq_iff_eq.mpr hslug)
  | assigned mapped isText found =>
    obtain ⟨r, hdecides⟩ := RoleMapping.resolve_eq_some_iff.mp mapped.resolve_eq.2
    obtain rfl := Text.toString?_eq_some.mp isText
    exact ⟨rfl, .given hdecides (List.mem_of_find?_eq_some found)⟩

/-! ### Both stages -/

/-- The first stage leaves the roles alone. -/
theorem Account.roles_eq {r : Except Failure User} (ha : Account p id stale a s r s' ns) :
    s'.roles = s.roles := by
  cases ha with
  | known | disabled | noDefaultRole | raced | lost => rfl
  | created _ _ _ inserted =>
    obtain ⟨-, -, rfl⟩ := Store.insert_eq_ok_iff.mp inserted
    rfl

/-- The first stage reports nothing about a mapped role. -/
theorem Account.roleDiagnostics_eq {r : Except Failure User}
    (ha : Account p id stale a s r s' ns) : roleDiagnostics ns = [] := by
  cases ha <;> rfl

/-- A role comes about in the same way for users of one email and one role. -/
theorem Assigned.congr {m : RoleMapping} {w : User} {slug : String} (hroles : s'.roles = s.roles)
    (hemail : w.email = v.email) (hrole : w.role = v.role) (ha : Assigned m a s' w slug ns) :
    Assigned m a s v slug ns := by
  cases ha with
  | unasked unasked =>
    rw [hrole]
    exact .unasked unasked
  | unmatched asserted mapping undecided =>
    rw [hrole, hemail]
    exact .unmatched asserted mapping undecided
  | missing decides missing =>
    rw [hrole, hemail]
    exact .missing decides (hroles ▸ missing)
  | given decides stored => exact .given decides (hroles ▸ stored)

/-- What a successful reconciliation gives back is the user that the asserted email finds
afterwards. It is the user from before, or a new one with the default role, under the asserted names
that are not blank, and with the role that the mapping assigns; all else is as it was. -/
theorem reconcile_result (h : s.Consistent)
    (done : (reconcile p id stale a).start s = (.ok u, ⟨s', ns⟩)) :
    s'.findByEmail a.normalizedEmail = .ok (some u) ∧
      ∃ v, Previous p id a s v ∧ Named a.firstName v.firstName u.firstName ∧
        Named a.lastName v.lastName u.lastName ∧
        Assigned (mapping p a) a s v u.role (roleDiagnostics ns) ∧
        u = Store.renewed v u.firstName u.lastName u.role := by
  have hr := (start_eq_iff h).mp done
  have hconsistent := h.writes (hr.writes h)
  cases hr with
  | @account w s₁ _ _ ns₁ ns₂ account roleStep =>
    obtain ⟨v, hprevious, rfl⟩ := account.previous h
    obtain ⟨hu, hassigned⟩ := roleStep.assigned_of_ok
    have hdiagnostics : roleDiagnostics (ns₁ ++ ns₂) = roleDiagnostics ns₂ := by
      rw [roleDiagnostics, List.filter_append]
      exact congrArg (· ++ _) account.roleDiagnostics_eq
    have hanswers : answers a.normalizedEmail u = true := by
      rw [hu]
      exact account.answers_email
    refine ⟨hconsistent.findByEmail_of_mem (roleStep.stored account.mem).1 hanswers, v, hprevious,
      ?_, ?_, ?_, ?_⟩
    · rw [hu]
      exact named_renamed a.firstName v.firstName
    · rw [hu]
      exact named_renamed a.lastName v.lastName
    · rw [hdiagnostics]
      exact hassigned.congr account.roles_eq (refreshed_email v a) rfl
    · rw [hu]
      rfl

/-! ### A first login with a mapped role -/

/-- A user who asserts two roles, of which the first one has an empty slug. -/
def grace : Assertion where
  email := "GRACE@Example.org"
  firstName := some "Grace"
  lastName := none
  externalId := some "g-1"
  externalRoles := ["visitor", "staff"]
  provider := .oidc

/-- New users are members; staff are administrators. -/
def staffPolicy : Policy where
  defaultRole := "member"
  provisioning := true
  mappings := { oidc := "\x7b\"staff\": \"admin\", \"visitor\": \"\"\x7d" }

/-- The role of new users. -/
def member : Role := ⟨"member", "Member"⟩

/-- The role of staff. -/
def admin : Role := ⟨"admin", "Admin"⟩

/-- A store with two roles and a user. -/
def office : Store where
  roles := [member, admin]
  users := [{ id := ⟨1⟩, email := "ada@example.org", role := "admin" }]

theorem consistent_office : office.Consistent :=
  ⟨by decide, by decide +kernel, by decide +kernel⟩

theorem mapped_grace : Mapped staffPolicy grace (some (Text.ofString admin.slug)) where
  asserted := List.cons_ne_nil _ _
  text := ⟨[(Text.ofString "staff", Text.ofString "admin"), (Text.ofString "visitor", [])],
    by decide +kernel, List.cons_ne_nil _ _, by decide +kernel⟩

/-- Whatever the mapping texts are, the first login creates the user. -/
theorem account_grace (mappings : MappingTexts) :
    Account { staffPolicy with mappings := mappings } ⟨2⟩ 0 grace office
      (.ok (newUser ⟨2⟩ member grace))
      { office with users := office.users ++ [newUser ⟨2⟩ member grace] }
      [.userCreated ⟨2⟩ grace.normalizedEmail .oidc] := by
  have default : office.roles.find? (·.slug == "member") = some member := by decide +kernel
  exact .created (by decide +kernel) rfl default (by decide +kernel)

/-- The first login creates the user, and then gives it the mapped role. -/
theorem reconciled_grace :
    ∃ s' ns, Reconciled staffPolicy ⟨2⟩ 0 grace office
      (.ok (withRole (newUser ⟨2⟩ member grace) admin.slug)) s' ns := by
  have found : office.roles.find? (·.slug == admin.slug) = some admin := by decide +kernel
  have roleStep := RoleStep.assigned (u := newUser ⟨2⟩ member grace)
    (s := { office with users := office.users ++ [newUser ⟨2⟩ member grace] })
    mapped_grace (Text.toString?_ofString admin.slug) found
  exact ⟨_, _, .account (account_grace staffPolicy.mappings) roleStep⟩

/-- A new user whose second asserted role decides. -/
theorem reconcile_result_grace :
    ∃ u s' ns, office.Consistent ∧
      (reconcile staffPolicy ⟨2⟩ 0 grace).start office = (.ok u, ⟨s', ns⟩) ∧
      u.firstName = "Grace" ∧ u.role = "admin" ∧
      s'.findByEmail grace.normalizedEmail = .ok (some u) ∧
      ∃ v, Previous staffPolicy ⟨2⟩ grace office v ∧
        Named grace.firstName v.firstName u.firstName ∧
        Named grace.lastName v.lastName u.lastName ∧
        Assigned (mapping staffPolicy grace) grace office v u.role (roleDiagnostics ns) ∧
        u = Store.renewed v u.firstName u.lastName u.role := by
  obtain ⟨s', ns, hreconciled⟩ := reconciled_grace
  have done := (start_eq_iff consistent_office).mpr hreconciled
  exact ⟨_, s', ns, consistent_office, done, rfl, rfl, reconcile_result consistent_office done⟩

end FederatedLogin.Reconcile
