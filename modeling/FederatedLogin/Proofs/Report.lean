import FederatedLogin.Proofs.Administration
import FederatedLogin.Proofs.Reconcile.MappingText
import FederatedLogin.Proofs.Store.Entry

/-!
# What the report says about the next login

The report on role mappings reads the mapping texts and looks for unknown roles on its own, apart
from the reconciliation that a login makes. `report_agrees` says that the two agree: an item that is
shown as invalid is one that a reconciliation warns of, its entries are what a reconciliation
resolves the asserted roles against, and the roles that it shows as unknown are those that a
reconciliation does not assign.

What a reconciliation does with its mapping is said of every assertion that gets as far as the
mapping. `HasAccount` says which do: the user exists, or can be created.
-/

namespace FederatedLogin

open Store (Consistent answers)

/-! ### Assertions that get an account -/

namespace Reconcile

variable {p : Policy} {id : Uuid} {stale : Nat} {a : Assertion} {s s' : Store} {u : User}
  {r : Except Failure User} {ns : List Notice}

/-- The asserted user exists, or can be created with an identifier. -/
inductive HasAccount (p : Policy) (id : Uuid) (a : Assertion) (s : Store) : Prop
  | existing {u : User} (found : s.findByEmail a.normalizedEmail = .ok (some u))
  | provisionable {role : Role} (absent : s.findByEmail a.normalizedEmail = .ok none)
      (on : p.provisioning = true) (default : s.findRole p.defaultRole = .ok (some role))
      (new : s.Fresh id)

/-- A new user can be stored if nobody has the email or the identifier. -/
theorem insert_newUser (h : s.Consistent) {role : Role} (hrole : role ∈ s.roles)
    (absent : s.findByEmail a.normalizedEmail = .ok none) (new : s.Fresh id) :
    s.insert (newUser id role a) =
      .ok { s with users := s.users ++ [newUser id role a] } := by
  have held : s.holdsRole (newUser id role a) = true := Store.holdsRole_iff.mpr ⟨role, hrole, rfl⟩
  refine Store.insert_eq_ok_iff.mpr ⟨held, fun v hv => ?_, rfl⟩
  rw [h.findByEmail_eq, Except.ok.injEq, List.find?_eq_none] at absent
  refine Store.clashes_eq_false_iff.mpr ⟨(new v hv).symm, fun hemail => absent v hv ?_⟩
  exact Store.answers_iff.mpr
    (hemail.symm.trans (Store.answers_iff.mp (answers_newUser id role a)))

/-- Exactly these assertions get through the first stage. -/
theorem exists_account_iff (h : s.Consistent) :
    (∃ u s' ns, Account p id 0 a s (.ok u) s' ns) ↔ HasAccount p id a s := by
  have hseen : s.findByEmail a.normalizedEmail = .ok (seen 0 a s) := h.findByEmail_eq _
  constructor
  · rintro ⟨u, s', ns, account⟩
    cases account with
    | known found => exact .existing (hseen.trans (congrArg _ found))
    | raced unseen _ _ _ found => exact absurd (unseen.symm.trans found) nofun
    | @created role _ unseen on stored inserted =>
      have new : s.Fresh id := fun v hv hid =>
        (Store.clashes_eq_false_iff.mp ((Store.insert_eq_ok_iff.mp inserted).2.1 v hv)).1 hid.symm
      have hdefault : s.findRole p.defaultRole = .ok (some role) := by rw [h.findRole_eq, stored]
      exact .provisionable (hseen.trans (congrArg _ unseen)) on hdefault new
  · intro haccount
    cases haccount with
    | existing found =>
      rw [hseen] at found
      exact ⟨_, _, _, .known (Except.ok.inj found)⟩
    | provisionable absent on default new =>
      rw [h.findRole_eq] at default
      have hrole := List.mem_of_find?_eq_some (Except.ok.inj default)
      have inserted := insert_newUser h hrole absent new
      rw [hseen] at absent
      exact ⟨_, _, _, .created (Except.ok.inj absent) on (Except.ok.inj default) inserted⟩

/-! ### What a reconciliation does with its mapping -/

/-- A mapping text of a provider is reported as one that is ignored. -/
def Warns (provider : Provider) (ns : List Notice) : Prop :=
  ∃ refusal, .mappingIgnored provider.name provider.mappingKey refusal ∈ ns

theorem Account.not_warns {provider : Provider} (ha : Account p id stale a s r s' ns) :
    ¬Warns provider ns := by
  rintro ⟨refusal, hmem⟩
  cases ha <;> simp at hmem

/-- The second stage warns of a text that is refused. -/
theorem RoleStep.warns_iff (asserted : a.externalRoles ≠ []) (hr : RoleStep p a s u r s' ns) :
    Warns a.provider ns ↔
      ∃ refusal, RoleMapping.loadLenient (p.mappings.text a.provider) = .ok ([], some refusal) := by
  have hmapped {slug : Option Text} (mapped : Mapped p a slug) (refusal : RoleMapping.Refusal) :
      RoleMapping.loadLenient (p.mappings.text a.provider) ≠ .ok ([], some refusal) := by
    obtain ⟨-, m, hload, -, -⟩ := mapped
    rw [hload]
    simp
  cases hr with
  | noRoles unasserted => exact absurd unasserted asserted
  | beyond _ text => simp [Warns, text]
  | @noMapping refusal _ text => cases refusal <;> simp [Warns, text, mappingNotices]
  | noMatch mapped | notText mapped | roleMissing mapped | assigned mapped =>
    simp [Warns, hmapped mapped]

/-- A reconciliation warns of a text that is refused, if it gets an account. -/
theorem warns_iff (h : s.Consistent) (asserted : a.externalRoles ≠ []) :
    Warns a.provider ((reconcile p id 0 a).start s).2.notices ↔
      (∃ refusal, RoleMapping.loadLenient (p.mappings.text a.provider) = .ok ([], some refusal)) ∧
        HasAccount p id a s := by
  obtain ⟨r, s', ns, hr⟩ := exists_reconciled p id 0 a s
  rw [(start_eq_iff h).mpr hr, ← exists_account_iff h]
  cases hr with
  | noAccount account =>
    refine iff_of_false account.not_warns fun ⟨_, u, s₁, ns₁, account'⟩ => ?_
    exact absurd ((account.exec h []).symm.trans (account'.exec h [])) nofun
  | @account u s₁ _ _ ns₁ ns₂ account roleStep =>
    have happend : Warns a.provider (ns₁ ++ ns₂) ↔ Warns a.provider ns₂ := by
      refine ⟨fun ⟨refusal, hmem⟩ => ?_, fun ⟨refusal, hmem⟩ =>
        ⟨refusal, List.mem_append_right _ hmem⟩⟩
      rcases List.mem_append.mp hmem with hmem | hmem
      · exact absurd ⟨refusal, hmem⟩ account.not_warns
      · exact ⟨refusal, hmem⟩
    rw [happend, roleStep.warns_iff asserted, and_iff_left ⟨u, s₁, ns₁, account⟩]

/-- The second stage, with a mapping that is read and what is reported about its text. -/
theorem exec_applyMappedRole {m : RoleMapping} {refusal : Option RoleMapping.Refusal}
    (asserted : a.externalRoles ≠ [])
    (text : RoleMapping.loadLenient (p.mappings.text a.provider) = .ok (m, refusal)) (u : User)
    (q : Progress) :
    (applyMappedRole p a u).exec q =
      (if m.isEmpty then pure u else applyMapped u a m : Action Failure User).exec
        ⟨q.store, q.notices ++ mappingNotices a refusal⟩ := by
  obtain ⟨s, n⟩ := q
  cases refusal <;> simp [applyMappedRole, asserted, text, mappingNotices]

/-- The user that is given back is found by the asserted email afterwards. -/
theorem Reconciled.findByEmail_eq (h : s.Consistent)
    (hr : Reconciled p id stale a s (.ok u) s' ns) :
    s'.findByEmail a.normalizedEmail = .ok (some u) := by
  have hconsistent := h.writes (hr.writes h)
  cases hr with
  | account account roleStep =>
    obtain ⟨hu, slug, rfl⟩ := roleStep.stored account.mem
    exact hconsistent.findByEmail_of_mem hu account.answers_email

/-- A single asserted role that the mapping has a slug for is mapped to this slug. -/
theorem mapped_of_singleton {role : String} {slug : Text} {m : RoleMapping}
    (asserted : a.externalRoles = [role])
    (text : RoleMapping.loadLenient (p.mappings.text a.provider) = .ok (m, none))
    (maps : m.Maps (Text.ofString role) slug) : Mapped p a (some slug) := by
  have hm : m ≠ [] := by
    rintro rfl
    exact absurd maps.1 nofun
  refine ⟨by simp [asserted], m, text, hm, ?_⟩
  rw [asserted, List.map_singleton]
  exact RoleMapping.resolve_eq_some_iff.mpr ⟨_, maps, [], [], rfl, nofun⟩

/-- A reconciliation with one asserted role that maps to a slug ends with the role of this slug if
it is stored, and else with another one. -/
theorem start_of_singleton (h : s.Consistent) {role name : String} {m : RoleMapping}
    (asserted : a.externalRoles = [role])
    (text : RoleMapping.loadLenient (p.mappings.text a.provider) = .ok (m, none))
    (maps : m.Maps (Text.ofString role) (Text.ofString name)) (haccount : HasAccount p id a s) :
    ∃ u s' ns, (reconcile p id 0 a).start s = (.ok u, ⟨s', ns⟩) ∧
      s'.findByEmail a.normalizedEmail = .ok (some u) ∧
      (u.role = name ↔ ∃ q ∈ s.roles, q.slug = name) := by
  obtain ⟨w, s₁, ns₁, account⟩ := (exists_account_iff h).mpr haccount
  have mapped := mapped_of_singleton asserted text maps
  have isText := Text.toString?_ofString name
  rw [← account.roles_eq]
  rcases hfound : s₁.roles.find? (·.slug == name) with _ | q
  · have hr := Reconciled.account account (.roleMissing mapped isText hfound)
    have hnone (q : Role) (hq : q ∈ s₁.roles) : q.slug ≠ name := fun hslug =>
      List.find?_eq_none.mp hfound q hq (beq_iff_eq.mpr hslug)
    refine ⟨w, _, _, (start_eq_iff h).mpr hr, hr.findByEmail_eq h, ?_⟩
    refine iff_of_false (fun hrole => ?_) fun ⟨q, hq, hslug⟩ => hnone q hq hslug
    -- The user keeps a role that is stored, and so not this one.
    obtain ⟨q, hq, hslug⟩ :=
      Store.holdsRole_iff.mp ((h.writes (account.writes h)).held w account.mem)
    exact hnone q hq (hslug.trans hrole)
  · have hslug := List.find?_some hfound
    obtain rfl : q.slug = name := beq_iff_eq.mp hslug
    have hr := Reconciled.account account (.assigned mapped isText hfound)
    refine ⟨_, _, _, (start_eq_iff h).mpr hr, hr.findByEmail_eq h, ?_⟩
    exact iff_of_true rfl ⟨q, List.mem_of_find?_eq_some hfound, rfl⟩

end Reconcile

/-! ### What the report shows -/

namespace Service.Report

open Reconcile (HasAccount Warns)
open RoleMapping (Accepts Refuses Beyond)

variable {c : Context} {s : Store} {p : Provider} {i : Item} {m : RoleMapping} {st : State}
  {r : Http.Request}

/-- What an item shows of a provider's mapping text. -/
structure Shows (c : Context) (s : Store) (p : Provider) (i : Item) : Prop where
  provider : i.provider = p
  text : ∃ refusal, RoleMapping.loadLenient (c.mappings.text p) = .ok (i.entries, refusal)
  valid : (∃ refusal, RoleMapping.loadLenient (c.mappings.text p) = .ok ([], some refusal)) ↔
    i.valid = false
  distinct : (i.entries.map (·.1)).Nodup
  unknown : i.unknownRoles = unknownRoles s i.entries

/-- An item shows the text that a login reads. -/
theorem shows_of_item (h : item c s p = .ok i) : Shows c s p i := by
  rw [item] at h
  rcases RoleMapping.accepts_or_refuses_or_beyond (c.mappings.text p) with
    ⟨m, accepts⟩ | ⟨refusal, refuses⟩ | ⟨limit, beyond⟩
  · have htext : RoleMapping.loadLenient (c.mappings.text p) = .ok (m, none) := by
      rw [RoleMapping.loadLenient, accepts.load_eq]
    rw [accepts.load_eq] at h
    obtain rfl := Except.ok.inj h
    exact ⟨rfl, ⟨none, htext⟩, by simp [htext], accepts.nodup_keys, rfl⟩
  · have htext : RoleMapping.loadLenient (c.mappings.text p) = .ok ([], some refusal) := by
      rw [RoleMapping.loadLenient, refuses.load_eq]
    rw [refuses.load_eq] at h
    obtain rfl := Except.ok.inj h
    exact ⟨rfl, ⟨_, htext⟩, by simp [htext], List.nodup_nil, by simp [unknownRoles]⟩
  · rw [beyond.load_eq] at h
    cases h

/-- The report has an item for each provider, in order, and all that it shows can be written. -/
theorem items_eq_ok {providers : List Provider} {is : List Item}
    (h : items c s providers = .ok is) :
    is.map (·.provider) = providers ∧ ∀ i ∈ is, Shows c s i.provider i ∧ i.faults = [] := by
  induction providers generalizing is with
  | nil =>
    obtain rfl := Except.ok.inj h
    exact ⟨rfl, nofun⟩
  | cons p rest ih =>
    obtain ⟨i, hitem, h⟩ := bind_eq_ok.mp h
    dsimp only at h
    split at h
    · rename_i hfaults
      obtain ⟨is', hrest, h⟩ := bind_eq_ok.mp h
      obtain rfl := Except.ok.inj h
      obtain ⟨hproviders, hall⟩ := ih hrest
      have hshows := shows_of_item hitem
      refine ⟨by rw [List.map_cons, hshows.provider, hproviders], fun j hj => ?_⟩
      rcases List.mem_cons.mp hj with rfl | hj
      · exact ⟨hshows.provider.symm ▸ hshows, List.isEmpty_iff.mp hfaults⟩
      · exact hall j hj
    · exact absurd h nofun

theorem mem_unknownRoles {slug : Text} :
    slug ∈ unknownRoles s m ↔
      (∃ role, (role, slug) ∈ m) ∧ ∀ q ∈ s.roles, Text.ofString q.slug ≠ slug := by
  simp [unknownRoles]

/-- What can be written has no lone surrogates. -/
theorem exists_strings_of_faults (h : i.faults = []) {e : Text × Text} (he : e ∈ i.entries) :
    ∃ key slug : String, e = (Text.ofString key, Text.ofString slug) := by
  have hproper {t : Text} (ht : t.toString? ≠ none) : ∃ text : String, t = Text.ofString text := by
    obtain ⟨text, htext⟩ := Option.ne_none_iff_exists'.mp ht
    exact ⟨text, Text.toString?_eq_some.mp htext⟩
  have hentries := List.flatMap_eq_nil_iff.mp (List.append_eq_nil_iff.mp h).1 e he
  obtain ⟨hkey, hslug⟩ := List.append_eq_nil_iff.mp hentries
  obtain ⟨key, hkey⟩ := hproper (by simpa using hkey)
  obtain ⟨slug, hslug⟩ := hproper (by simpa using hslug)
  exact ⟨key, slug, Prod.ext hkey hslug⟩

/-- An entry is found by its key, since no key comes twice. -/
theorem slug?_of_mem {role slug : Text} (distinct : (m.map (·.1)).Nodup) (he : (role, slug) ∈ m) :
    m.slug? role = some slug := by
  induction m with
  | nil => exact absurd he List.not_mem_nil
  | cons e m ih =>
    obtain ⟨hhead, htail⟩ := List.nodup_cons.mp distinct
    rw [RoleMapping.slug?]
    rcases List.mem_cons.mp he with rfl | he
    · simp
    · have hkey : role ∈ m.map (·.1) := List.mem_map_of_mem he
      have hne : e.1 ≠ role := by
        rintro rfl
        exact hhead hkey
      rw [List.find?_cons_of_neg (by simpa using hne)]
      exact ih htail he

/-- An item of the report agrees with what a reconciliation does for its provider. -/
structure Agrees (c : Context) (s : Store) (i : Item) : Prop where
  /-- Whoever gets an account with external roles is warned about exactly if the text is shown as
  invalid. -/
  valid : ∀ id a, a.provider = i.provider → a.externalRoles ≠ [] →
    (Warns i.provider ((reconcile (c.settings.policy c.mappings) id 0 a).start s).2.notices ↔
      i.valid = false ∧ HasAccount (c.settings.policy c.mappings) id a s)
  /-- The shown entries are the mapping that the asserted roles are resolved against. -/
  entries : ∀ a, a.provider = i.provider → a.externalRoles ≠ [] → ∃ ns, ∀ u q,
    (Reconcile.applyMappedRole (c.settings.policy c.mappings) a u).exec q =
      (if i.entries.isEmpty then pure u else Reconcile.applyMapped u a i.entries :
        Action Reconcile.Failure User).exec ⟨q.store, q.notices ++ ns⟩
  /-- A slug that an entry maps to is not shown as unknown exactly if the entry's role brings the
  user the role of this slug. -/
  roles : ∀ e ∈ i.entries, e.2 ≠ [] → ∃ role name : String,
    e = (Text.ofString role, Text.ofString name) ∧
      ∀ id a, a.provider = i.provider → a.externalRoles = [role] →
        HasAccount (c.settings.policy c.mappings) id a s →
        ∃ u s' ns, (reconcile (c.settings.policy c.mappings) id 0 a).start s = (.ok u, ⟨s', ns⟩) ∧
          s'.findByEmail a.normalizedEmail = .ok (some u) ∧
          (e.2 ∉ i.unknownRoles ↔ u.role = name)

/-- An item that can be written agrees. -/
theorem agrees_of_shows (h : s.Consistent) (hshows : Shows c s i.provider i)
    (hfaults : i.faults = []) : Agrees c s i := by
  obtain ⟨refusal, htext⟩ := hshows.text
  have text {a : Assertion} (hprovider : a.provider = i.provider) : RoleMapping.loadLenient
      ((c.settings.policy c.mappings).mappings.text a.provider) = .ok (i.entries, refusal) := by
    rw [hprovider]
    exact htext
  refine ⟨fun id a hprovider asserted => ?_, fun a hprovider asserted => ?_, fun e he hslug => ?_⟩
  · rw [← hprovider] at hshows ⊢
    rw [Reconcile.warns_iff h asserted]
    exact and_congr_left fun _ => hshows.valid
  · exact ⟨_, fun u q => Reconcile.exec_applyMappedRole asserted (text hprovider) u q⟩
  · obtain ⟨role, name, rfl⟩ := exists_strings_of_faults hfaults he
    refine ⟨role, name, rfl, fun id a hprovider asserted haccount => ?_⟩
    obtain rfl := Reconcile.refusal_eq_none htext (List.ne_nil_of_mem he)
    have maps : i.entries.Maps (Text.ofString role) (Text.ofString name) :=
      ⟨slug?_of_mem hshows.distinct he, hslug⟩
    obtain ⟨u, s', ns, hstart, hfound, hrole⟩ :=
      Reconcile.start_of_singleton h asserted (text hprovider) maps haccount
    refine ⟨u, s', ns, hstart, hfound, ?_⟩
    rw [hrole, hshows.unknown, mem_unknownRoles]
    constructor
    · intro hknown
      by_contra hnone
      refine hknown ⟨⟨_, he⟩, fun q hq hsame => hnone ⟨q, hq, Text.ofString_inj.mp hsame⟩⟩
    · rintro ⟨q, hq, rfl⟩ ⟨-, hunknown⟩
      exact hunknown q hq rfl

/-- A report that is answered with status 200 has an item for each provider, and every item agrees
with what the next login of that provider does. -/
theorem report_agrees (h : s.Consistent) (hs : st.store = some s)
    (method : r.method = Route.roleMappings.method) (path : r.path = Route.roleMappings.path)
    {a : Http.Response} (answered : (Service.handle c r st).1 = .ok a) (ok : a.status = 200) :
    ∃ items : List Item,
      a.body = .json (.object [("default_role", .str c.settings.defaultRoleSlug),
        ("jit_provisioning", .bool c.settings.jitProvisioning),
        ("items", .list (items.map Item.datum))]) ∧
      items.map (·.provider) = Provider.all ∧ ∀ i ∈ items, Agrees c s i := by
  have asks : Access.AsksAdmin r .roleMappings := ⟨.inr rfl, method, path⟩
  rw [Access.handle_of_asksAdmin asks, hs] at answered
  split at answered
  · obtain ⟨d, hpage, rfl⟩ := map_eq_ok.mp answered
    obtain ⟨is, hitems, hd⟩ := bind_eq_ok.mp hpage
    obtain rfl := Except.ok.inj hd
    obtain ⟨hproviders, hall⟩ := items_eq_ok hitems
    exact ⟨is, rfl, hproviders, fun i hi => agrees_of_shows h (hall i hi).1 (hall i hi).2⟩
  · rename_i reason _
    obtain rfl := Except.ok.inj answered
    rcases Access.status_of_refusal reason with hstatus | hstatus <;>
      exact absurd (hstatus.symm.trans ok) nofun
  · exact absurd answered nofun

/-! ### A report with a mistake and an unknown role -/

/-- One mapping text names a role that is not stored, and another one is no JSON. -/
def mistakenMappings : MappingTexts where
  postgres := "\x7b\"opsAdmin\": \"admin\", \"opsGhost\": \"ghost\"\x7d"
  xsuaa := "\x7bnot json"

/-- The report that an administrator gets about these texts. -/
theorem report_agrees_ada :
    let c : Context := { Login.adaContext with mappings := mistakenMappings }
    let st : State := { store := some Reconcile.office }
    Reconcile.office.Consistent ∧ st.store = some Reconcile.office ∧
      ∃ token a, let r := Access.adminRequest .roleMappings token
        r.method = Route.roleMappings.method ∧ r.path = Route.roleMappings.path ∧
        (Service.handle c r st).1 = .ok a ∧ a.status = 200 ∧
        ∃ items : List Item,
          a.body = .json (.object [("default_role", .str c.settings.defaultRoleSlug),
            ("jit_provisioning", .bool c.settings.jitProvisioning),
            ("items", .list (items.map Item.datum))]) ∧
          items.map (·.provider) = Provider.all ∧ ∀ i ∈ items, Agrees c Reconcile.office i := by
  intro c st
  obtain ⟨token, -, administrates⟩ := Access.exists_administrates mistakenMappings .roleMappings
  have asks : Access.AsksAdmin (Access.adminRequest .roleMappings token) .roleMappings :=
    ⟨.inr rfl, rfl, rfl⟩
  have hshown : (mappings c Reconcile.office).toOption.isSome = true := by decide +kernel
  obtain ⟨d, hd⟩ : ∃ d, mappings c Reconcile.office = .ok d := by
    rcases hpage : mappings c Reconcile.office with e | d
    · rw [hpage] at hshown
      exact absurd hshown nofun
    · exact ⟨d, rfl⟩
  have answered : (Service.handle c (Access.adminRequest .roleMappings token) st).1 =
      .ok (Http.CrossOrigin.mark c.settings.corsOrigins
        (Access.adminRequest .roleMappings token) ⟨200, [], .json d⟩) :=
    (Access.handle_of_administrates asks administrates).trans
      (congrArg (Except.map _) hd)
  exact ⟨Reconcile.consistent_office, rfl, token, _, rfl, rfl, answered, rfl,
    report_agrees Reconcile.consistent_office rfl rfl rfl answered rfl⟩

end Service.Report

end FederatedLogin
