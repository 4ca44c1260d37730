import FederatedLogin.RoleMapping

/-!
# Which asserted role decides

Of the asserted roles, the first one that the mapping has a slug for decides; a role whose slug is
empty counts as one without. `resolve_eq_some_iff` says that this is the slug that a mapping
resolves to, and `resolve_eq_none_iff` that a mapping resolves to nothing only if none decides.
-/

namespace FederatedLogin.RoleMapping

variable {m : RoleMapping} {roles : List Text} {slug : Text}

/-- The mapping has a slug for an external role. -/
def Maps (m : RoleMapping) (r slug : Text) : Prop := m.slug? r = some slug ∧ slug ≠ []

/-- An external role decides: it has a slug, and none of the roles asserted before it has one. -/
structure Decides (m : RoleMapping) (roles : List Text) (r slug : Text) : Prop where
  maps : m.Maps r slug
  first : ∃ before after, roles = before ++ r :: after ∧ ∀ q ∈ before, ∀ t, ¬m.Maps q t

theorem filter_slug?_eq_some {r : Text} :
    (m.slug? r).filter (!·.isEmpty) = some slug ↔ m.Maps r slug := by
  rw [Option.filter_eq_some_iff, Maps, Bool.not_eq_true', List.isEmpty_eq_false_iff]

theorem filter_slug?_eq_none {r : Text} :
    (m.slug? r).filter (!·.isEmpty) = none ↔ ∀ t, ¬m.Maps r t := by
  rw [Option.eq_none_iff_forall_ne_some]
  exact forall_congr' fun t => not_congr filter_slug?_eq_some

/-- A mapping resolves to the slug of the role that decides. -/
theorem resolve_eq_some_iff : m.resolve roles = some slug ↔ ∃ r, m.Decides roles r slug := by
  rw [resolve, List.findSome?_eq_some_iff]
  constructor
  · rintro ⟨before, r, after, hroles, hslug, hbefore⟩
    exact ⟨r, filter_slug?_eq_some.mp hslug, before, after, hroles,
      fun q hq => filter_slug?_eq_none.mp (hbefore q hq)⟩
  · rintro ⟨r, hmaps, before, after, hroles, hbefore⟩
    exact ⟨before, r, after, hroles, filter_slug?_eq_some.mpr hmaps,
      fun q hq => filter_slug?_eq_none.mpr (hbefore q hq)⟩

theorem resolve_eq_none_iff : m.resolve roles = none ↔ ∀ r slug, ¬m.Decides roles r slug := by
  rw [Option.eq_none_iff_forall_ne_some, forall_comm]
  exact forall_congr' fun slug => (not_congr resolve_eq_some_iff).trans not_exists

end FederatedLogin.RoleMapping
