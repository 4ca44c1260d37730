import FederatedLogin.Proofs.Reconcile.Result
import FederatedLogin.Proofs.RoleMapping.Loading

/-!
# What a mapping text can do to a login

Without a mapping text, a reconciliation is its first stage alone (`reconcile_unmapped`). A mapping
text that is refused adds one report to that and changes nothing else (`start_of_refuses`).

A mapping text makes a reconciliation fail in two ways only, which `TextFails` lists: the text is
beyond a limit of the JSON reader, or the slug that it maps to is no proper text.
`reconcile_error_iff` says that these are all the failures that the text brings about.
-/

namespace FederatedLogin.Reconcile

open RoleMapping (Refuses Beyond parse)
open Store (Consistent)

variable {p : Policy} {id : Uuid} {stale : Nat} {a : Assertion} {s s' : Store} {u : User}
  {r : Except Failure User} {ns : List Notice} {f : Failure}

/-! ### Without a mapping text -/

/-- A policy without its mapping texts. -/
def unmapped (p : Policy) : Policy := { p with mappings := ⟨"", "", ""⟩ }

/-- The second stage parses the text of the provider and applies the mapping. -/
theorem applyMappedRole_eq (p : Policy) (a : Assertion) (u : User) :
    applyMappedRole p a u =
      if a.externalRoles.isEmpty then pure u
      else
        parse Failure.mappingBeyond a.provider.name a.provider.mappingKey
          (p.mappings.text a.provider) >>= fun m =>
        if m.isEmpty then pure u else applyMapped u a m := by
  rw [applyMappedRole, parse]
  split
  · rfl
  · rw [bind_assoc]
    congr 1
    funext loaded
    obtain ⟨m, refusal⟩ := loaded
    cases refusal <;> simp

theorem reconcile_unmapped (p : Policy) (id : Uuid) (stale : Nat) (a : Assertion) :
    reconcile (unmapped p) id stale a = account p id stale a := by
  have htext : (unmapped p).mappings.text a.provider = "" := by cases a.provider <;> rfl
  have hsame (u : User) : applyMappedRole (unmapped p) a u = pure u := by
    rw [applyMappedRole_eq, htext]
    split <;> rfl
  rw [reconcile]
  simp only [hsame, bind_pure]
  rfl

/-! ### With a mapping text -/

/-- A mapping text that is refused makes no difference but for one report. -/
theorem start_of_refuses {refusal : RoleMapping.Refusal} (asserted : a.externalRoles ≠ [])
    (refuses : Refuses (p.mappings.text a.provider) refusal)
    (done : ((reconcile (unmapped p) id stale a).start s) = (.ok u, ⟨s', ns⟩)) :
    (reconcile p id stale a).start s =
      (.ok u, ⟨s', ns ++ [.mappingIgnored a.provider.name a.provider.mappingKey refusal]⟩) := by
  rw [reconcile_unmapped, Action.start_eq] at done
  have hroles : a.externalRoles.isEmpty = false := List.isEmpty_eq_false_iff.mpr asserted
  rw [Action.start_eq, reconcile, Action.exec_bind, done]
  simp [applyMappedRole_eq, hroles, refuses.exec_parse]

/-- The failures that a mapping text brings about. -/
inductive TextFails (p : Policy) (a : Assertion) : Failure → Prop
  | beyond {limit : Json.Limit} (asserted : a.externalRoles ≠ [])
      (beyond : Beyond (p.mappings.text a.provider) limit) :
      TextFails p a (.mappingBeyond limit)
  | notText {slug : Text} (mapped : Mapped p a (some slug)) (surrogate : slug.toString? = none) :
      TextFails p a (.slugNotText slug)

theorem TextFails.roleStep (hf : TextFails p a f) (s : Store) (u : User) :
    RoleStep p a s u (.error f) s [] := by
  cases hf with
  | beyond asserted beyond =>
    exact .beyond asserted (RoleMapping.loadLenient_eq_error_iff.mpr beyond)
  | notText mapped surrogate => exact .notText mapped surrogate

/-- The second stage fails because of the mapping text only. -/
theorem RoleStep.eq_error_iff (h : s.Consistent) (hu : u ∈ s.users)
    (hr : RoleStep p a s u r s' ns) : r = .error f ↔ TextFails p a f := by
  constructor
  · rintro rfl
    cases hr with
    | beyond asserted text =>
      exact .beyond asserted (RoleMapping.loadLenient_eq_error_iff.mp text)
    | notText mapped surrogate => exact .notText mapped surrogate
  · intro hf
    have hsame := (hr.exec h hu []).symm.trans ((hf.roleStep s u).exec h hu [])
    exact (Prod.mk.inj hsame).1

/-- A reconciliation fails where it would without a mapping text, and where the mapping text makes
it fail. -/
theorem reconcile_error_iff (h : s.Consistent) :
    ((reconcile p id stale a).start s).1 = .error f ↔
      ((reconcile (unmapped p) id stale a).start s).1 = .error f ∨
        (∃ u, ((reconcile (unmapped p) id stale a).start s).1 = .ok u) ∧ TextFails p a f := by
  obtain ⟨r, s', ns, hr⟩ := exists_reconciled p id stale a s
  rw [reconcile_unmapped, Action.start_eq, Action.start_eq, hr.exec h]
  cases hr with
  | noAccount account => simp [account.exec h]
  | account account roleStep =>
    simp [account.exec h, roleStep.eq_error_iff (h.writes (account.writes h)) account.mem]

/-- A mapping text is parsed without a failure, and with one report if it is refused, unless it is
beyond the limits of the JSON reader. A reconciliation fails because of its mapping text only if the
text is beyond these limits, or if the slug that it maps to is no proper text. -/
theorem mapping_text_outcome (h : s.Consistent) (p : Policy) (id : Uuid) (stale : Nat)
    (a : Assertion) :
    (∀ provider configKey source, ∃ result ns,
      RoleMapping.Parsed Failure.mappingBeyond provider configKey source result ns ∧ ∀ s n,
        (parse Failure.mappingBeyond provider configKey source).exec ⟨s, n⟩ =
          (result, ⟨s, n ++ ns⟩)) ∧
      (∀ f, ((reconcile p id stale a).start s).1 = .error f ↔
        ((reconcile (unmapped p) id stale a).start s).1 = .error f ∨
          (∃ u, ((reconcile (unmapped p) id stale a).start s).1 = .ok u) ∧ TextFails p a f) ∧
      ∀ refusal u s' ns, a.externalRoles ≠ [] → Refuses (p.mappings.text a.provider) refusal →
        (reconcile (unmapped p) id stale a).start s = (.ok u, ⟨s', ns⟩) →
        (reconcile p id stale a).start s =
          (.ok u, ⟨s', ns ++ [.mappingIgnored a.provider.name a.provider.mappingKey refusal]⟩) :=
  ⟨RoleMapping.exists_parsed Failure.mappingBeyond, fun _ => reconcile_error_iff h,
    fun _ _ _ _ => start_of_refuses⟩

/-! ### A text that is refused -/

/-- The mapping text gives a role a number for a slug. -/
def numberPolicy : Policy :=
  { staffPolicy with mappings := { oidc := "\x7b\"staff\": 3\x7d" } }

/-- A first login under a refused mapping text. -/
theorem mapping_text_outcome_grace :
    ∃ u s' ns, office.Consistent ∧ grace.externalRoles ≠ [] ∧
      (reconcile (unmapped numberPolicy) ⟨2⟩ 0 grace).start office = (.ok u, ⟨s', ns⟩) ∧
      (reconcile numberPolicy ⟨2⟩ 0 grace).start office = (.ok u, ⟨s', ns ++
        [.mappingIgnored "oidc" "oidc_role_mapping" (.notStrings [Text.ofString "staff"])]⟩) := by
  have asserted : grace.externalRoles ≠ [] := List.cons_ne_nil _ _
  have refuses : Refuses (numberPolicy.mappings.text grace.provider)
      (.notStrings [Text.ofString "staff"]) :=
    RoleMapping.load_eq_refused_iff.mp (by decide +kernel)
  have plain := (account_grace numberPolicy.mappings).exec consistent_office []
  rw [← reconcile_unmapped] at plain
  exact ⟨_, _, _, consistent_office, asserted, plain,
    (mapping_text_outcome consistent_office numberPolicy ⟨2⟩ 0 grace).2.2 _ _ _ _ asserted refuses
      plain⟩

/-! ### A text beyond the limits -/

/-- Lists that nest too deep. -/
def deepText : String := String.ofList (List.replicate 5000 '[' ++ List.replicate 5000 ']')

/-- A whole number of too many digits. -/
def hugeText : String := String.ofList ('1' :: List.replicate 4300 '1')

theorem beyond_deepText : Beyond deepText .tooDeep := by
  have hchars : deepText.toList = List.replicate 5000 '[' ++ List.replicate 5000 ']' :=
    String.toList_ofList
  refine .beyond ?_ (Json.readText_of_brackets (by decide) hchars)
  rw [Text.isAllSpacing, hchars]
  rfl

theorem beyond_hugeText : Beyond hugeText (.hugeInteger 4301) := by
  have hchars : hugeText.toList = '1' :: List.replicate 4300 '1' := String.toList_ofList
  have hdigits : ∀ c ∈ '1' :: List.replicate 4300 '1', c.isDigit = true := by
    intro c hc
    rcases List.mem_cons.mp hc with rfl | hc
    · rfl
    · obtain rfl := List.eq_of_mem_replicate hc
      rfl
  have hlong : Json.maxDigits ≤ (List.replicate 4300 '1').length := by
    rw [List.length_replicate]
    exact Nat.le_refl _
  have hread := Json.readText_of_digits hchars (by decide) hdigits hlong
  rw [List.length_replicate] at hread
  refine .beyond ?_ hread
  rw [Text.isAllSpacing, hchars]
  rfl

/-- The mapping text is lists that nest too deep. -/
def deepPolicy : Policy := { staffPolicy with mappings := { oidc := deepText } }

/-- A mapping text beyond the limits makes a login fail that would succeed without it, and a text
beyond the limits fails to be parsed. -/
theorem reconcile_fails_of_deepText :
    (∃ u, ((reconcile (unmapped deepPolicy) ⟨2⟩ 0 grace).start office).1 = .ok u) ∧
      ((reconcile deepPolicy ⟨2⟩ 0 grace).start office).1 = .error (.mappingBeyond .tooDeep) ∧
      ((parse Failure.mappingBeyond none none hugeText).start office).1 =
        .error (.mappingBeyond (.hugeInteger 4301)) := by
  have asserted : grace.externalRoles ≠ [] := List.cons_ne_nil _ _
  have plain := (account_grace deepPolicy.mappings).exec consistent_office []
  rw [← reconcile_unmapped] at plain
  have fails : TextFails deepPolicy grace (.mappingBeyond .tooDeep) :=
    .beyond asserted beyond_deepText
  refine ⟨⟨_, congrArg Prod.fst plain⟩, ?_, ?_⟩
  · exact (reconcile_error_iff consistent_office).mpr (.inr ⟨⟨_, congrArg Prod.fst plain⟩, fails⟩)
  · rw [Action.start_eq, beyond_hugeText.exec_parse]

end FederatedLogin.Reconcile
