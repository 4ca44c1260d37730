import FederatedLogin.Store
import Mathlib.Data.List.Nodup

/-!
# Seeding roles

Of a list of slugs, those are `missing` that no stored role has, each once and in the order in which
they first occur (`pairwise_missing`). Seeding adds exactly their roles and gives exactly these back
(`ensureRoles_eq`); the second time there is nothing left to add (`ensureRoles_of_stored`). Seeding
one list after another comes to seeding both at once (`ensureRoles_append`), and up to the order of
the rows it does not matter which list comes first (`perm_roles_ensureRoles`).
-/

namespace FederatedLogin.Store

variable {s : Store} {known list : List String} {slug : String}

/-! ### Missing slugs -/

/-- The slugs of a list that are not known, each once and in the order in which they first occur. -/
def missing (known : List String) : List String → List String
  | [] => []
  | slug :: rest =>
    if slug ∈ known then missing known rest else slug :: missing (known ++ [slug]) rest

theorem mem_missing : slug ∈ missing known list ↔ slug ∈ list ∧ slug ∉ known := by
  induction list generalizing known with
  | nil => simp [missing]
  | cons first rest ih =>
    rw [missing]
    split
    · rename_i hknown
      rw [ih, List.mem_cons]
      constructor
      · exact fun ⟨hrest, hnew⟩ => ⟨.inr hrest, hnew⟩
      · rintro ⟨rfl | hrest, hnew⟩
        · exact absurd hknown hnew
        · exact ⟨hrest, hnew⟩
    · rename_i hnew
      rw [List.mem_cons, List.mem_cons, ih, List.mem_append, List.mem_singleton]
      by_cases hfirst : slug = first
      · subst hfirst
        simp [hnew]
      · simp [hfirst]

theorem nodup_missing (known list : List String) : (missing known list).Nodup := by
  induction list generalizing known with
  | nil => exact .nil
  | cons first rest ih =>
    rw [missing]
    split
    · exact ih known
    · refine List.nodup_cons.mpr ⟨fun hfirst => ?_, ih _⟩
      exact (mem_missing.mp hfirst).2 (List.mem_append_right _ (List.mem_singleton_self _))

theorem missing_eq_nil (h : ∀ slug ∈ list, slug ∈ known) : missing known list = [] :=
  List.eq_nil_iff_forall_not_mem.mpr fun slug hslug =>
    (mem_missing.mp hslug).2 (h slug (mem_missing.mp hslug).1)

/-- The missing slugs come in the order in which they first occur in the list. -/
theorem pairwise_missing (known list : List String) :
    (missing known list).Pairwise fun a b => list.idxOf a < list.idxOf b := by
  induction list generalizing known with
  | nil => exact .nil
  | cons first rest ih =>
    -- A slug that is not the first one occurs one place later than in the rest.
    have hlater : ∀ slug, slug ≠ first → (first :: rest).idxOf slug = rest.idxOf slug + 1 :=
      fun slug hne => List.idxOf_cons_ne rest hne.symm
    have hrest : ∀ known', first ∈ known' → (missing known' rest).Pairwise
        fun a b => (first :: rest).idxOf a < (first :: rest).idxOf b := by
      intro known' hfirst
      have hne : ∀ slug ∈ missing known' rest, slug ≠ first := by
        rintro slug hslug rfl
        exact (mem_missing.mp hslug).2 hfirst
      refine (ih known').imp_of_mem fun {a b} ha hb hab => ?_
      rw [hlater a (hne a ha), hlater b (hne b hb)]
      omega
    rw [missing]
    split
    · exact hrest known ‹_›
    · have hfirst : first ∈ known ++ [first] := List.mem_append_right _ (List.mem_singleton_self _)
      refine List.pairwise_cons.mpr ⟨fun slug hslug => ?_, hrest _ hfirst⟩
      have hne : slug ≠ first := by
        rintro rfl
        exact (mem_missing.mp hslug).2 hfirst
      rw [List.idxOf_cons_self, hlater slug hne]
      omega

/-- Of two lists, the slugs of the first one are missing first, and then they are known. -/
theorem missing_append (known list list' : List String) :
    missing known (list ++ list') =
      missing known list ++ missing (known ++ missing known list) list' := by
  induction list generalizing known with
  | nil => simp [missing]
  | cons first rest ih =>
    rw [List.cons_append, missing, missing]
    split
    · exact ih known
    · rw [ih, List.cons_append, List.append_assoc, List.singleton_append]

/-- Which slugs are missing does not depend on the order of the lists. -/
theorem perm_missing_append (known list list' : List String) :
    (missing known (list ++ list')).Perm (missing known (list' ++ list)) := by
  refine (List.perm_ext_iff_of_nodup (nodup_missing _ _) (nodup_missing _ _)).mpr fun slug => ?_
  rw [mem_missing, mem_missing, List.mem_append, List.mem_append, or_comm]

/-- Collecting the slugs of a list, each once, adds the missing ones to those that are known. -/
theorem foldl_eq_append_missing (list known : List String) :
    list.foldl (fun got slug => if got.contains slug then got else got ++ [slug]) known =
      known ++ missing known list := by
  induction list generalizing known with
  | nil => exact (List.append_nil known).symm
  | cons first rest ih =>
    rw [List.foldl_cons, missing]
    by_cases hknown : first ∈ known
    · rw [if_pos (List.contains_iff_mem.mpr hknown), if_pos hknown, ih]
    · rw [if_neg (mt List.contains_iff_mem.mp hknown), if_neg hknown, ih, List.append_assoc]
      rfl

/-! ### Adding the missing roles -/

/-- The slugs of the stored roles. -/
def slugs (s : Store) : List String := s.roles.map (·.slug)

theorem mem_slugs : slug ∈ s.slugs ↔ ∃ r ∈ s.roles, r.slug = slug := List.mem_map

theorem any_slug_iff : s.roles.any (·.slug == slug) = true ↔ slug ∈ s.slugs := by
  rw [mem_slugs, List.any_eq_true]
  exact exists_congr fun r => and_congr_right fun _ => beq_iff_eq

/-- A role has the slug that it was created for. -/
theorem slugs_append_ofSlug (s : Store) (list : List String) :
    ({ s with roles := s.roles ++ list.map Role.ofSlug } : Store).slugs = s.slugs ++ list := by
  have hslug : (fun r : Role => r.slug) ∘ Role.ofSlug = id := rfl
  rw [slugs, slugs, List.map_append, List.map_map, hslug, List.map_id]

/-- A role that was added counts as stored for the slugs that follow. -/
theorem foldl_ensureRole (list : List String) (acc : Store × List Role) :
    list.foldl ensureRole acc =
      ({ acc.1 with roles := acc.1.roles ++ (missing acc.1.slugs list).map Role.ofSlug },
        ((missing acc.1.slugs list).map Role.ofSlug).reverse ++ acc.2) := by
  induction list generalizing acc with
  | nil => simp [missing]
  | cons first rest ih =>
    rw [List.foldl_cons, ih, ensureRole, missing]
    by_cases hknown : first ∈ acc.1.slugs
    · rw [if_pos (any_slug_iff.mpr hknown), if_pos hknown]
    · have hslugs : ({ acc.1 with roles := acc.1.roles ++ [Role.ofSlug first] } : Store).slugs =
          acc.1.slugs ++ [first] := slugs_append_ofSlug acc.1 [first]
      rw [if_neg (mt any_slug_iff.mp hknown), if_neg hknown]
      simp only [hslugs, List.map_cons, List.reverse_cons, List.append_assoc,
        List.singleton_append]

/-- Seeding adds the roles of the missing slugs behind the stored roles, and nothing else. -/
theorem ensureRoles_eq (s : Store) (list : List String) :
    s.ensureRoles list =
      ({ s with roles := s.roles ++ (missing s.slugs list).map Role.ofSlug },
        (missing s.slugs list).map Role.ofSlug) := by
  rw [ensureRoles, foldl_ensureRole]
  simp

theorem ensureRoles_users (s : Store) (slugs : List String) :
    (s.ensureRoles slugs).1.users = s.users := by
  rw [ensureRoles_eq]

/-- Where all slugs are stored, nothing is added. -/
theorem ensureRoles_of_stored (h : ∀ slug ∈ list, slug ∈ s.slugs) :
    s.ensureRoles list = (s, []) := by
  rw [ensureRoles_eq, missing_eq_nil h]
  simp

/-- After the seeding, the slugs of the list are stored besides those from before. -/
theorem mem_slugs_ensureRoles :
    slug ∈ (s.ensureRoles list).1.slugs ↔ slug ∈ s.slugs ∨ slug ∈ list := by
  rw [ensureRoles_eq, slugs_append_ofSlug, List.mem_append, mem_missing]
  by_cases hstored : slug ∈ s.slugs <;> simp [hstored]

/-- Seeding one list after another is seeding both at once. -/
theorem ensureRoles_append (s : Store) (list list' : List String) :
    ((s.ensureRoles list).1.ensureRoles list').1 = (s.ensureRoles (list ++ list')).1 := by
  rw [ensureRoles_eq s list, ensureRoles_eq _ list', slugs_append_ofSlug, ensureRoles_eq,
    missing_append, List.map_append, List.append_assoc]

/-- The order of two lists only shows in the order of the roles. -/
theorem perm_roles_ensureRoles (s : Store) (list list' : List String) :
    (s.ensureRoles (list ++ list')).1.roles.Perm (s.ensureRoles (list' ++ list)).1.roles := by
  rw [ensureRoles_eq, ensureRoles_eq]
  exact ((perm_missing_append s.slugs list list').map Role.ofSlug).append_left s.roles

end FederatedLogin.Store
