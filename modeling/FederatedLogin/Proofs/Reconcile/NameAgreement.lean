import FederatedLogin.Proofs.Assertion
import FederatedLogin.Proofs.Reconcile.Patching
import FederatedLogin.Proofs.Text.Spacing

/-!
# Names from a login and from a patch

A stored user gets new names in two ways: by reconciling an assertion, and by applying a patch. The
assertion strips spacing from a name, the patch strips blanks, and the information separators are
spacing but no blanks. `Compared` lists what the two make of one name. They disagree on a name that
has a separator at an end when its blanks are gone: the patch keeps the separators there, and where
nothing else is left of the name, the patch stores them while the assertion keeps the known name.

`names_outcome` says that both ways succeed and change nothing but names, each as `Compared` says,
and that they leave the same rows exactly if both names are `Agreed`.
-/

namespace FederatedLogin.Reconcile

open Store (Consistent answers)
open Text (strip stripBlanks isAllSpacing Unseparated)

/-! ### One name -/

/-- What becomes of a known name by reconciling an assertion and by applying a patch, if both have
the same name. -/
inductive Compared (known name : String) : String → String → Prop
  | blank (blank : stripBlanks name = "") : Compared known name known known
  | alike (nonempty : stripBlanks name ≠ "") (unseparated : Unseparated (stripBlanks name)) :
      Compared known name (strip name) (strip name)
  | separators (nonempty : stripBlanks name ≠ "") (spacing : isAllSpacing name = true) :
      Compared known name known (stripBlanks name)
  | separated (separated : ¬Unseparated (stripBlanks name)) (mixed : isAllSpacing name = false) :
      Compared known name (strip name) (stripBlanks name)

/-- An assertion and a patch with the same name lead to the same one: no separator stands at an end
of the name when its blanks are gone, or it consists of separators and is what was known. -/
inductive Agreed (known name : String) : Prop
  | unseparated (unseparated : Unseparated (stripBlanks name)) : Agreed known name
  | known (spacing : isAllSpacing name = true) (same : stripBlanks name = known) :
      Agreed known name

theorem renamed_some_of_ne {known name : String} (h : name ≠ "") :
    renamed (some name) known = name := if_neg (mt String.isEmpty_iff.mp h)

theorem compared_renamed (known name : String) :
    Compared known name (renamed (some (strip name)) known)
      (renamed (some (stripBlanks name)) known) := by
  by_cases hblank : stripBlanks name = ""
  · have hnone : strip name = "" := by
      rw [← Text.strip_stripBlanks, hblank]
      rfl
    rw [hnone, hblank]
    exact .blank hblank
  · rw [renamed_some_of_ne hblank]
    by_cases hnone : strip name = ""
    · rw [hnone]
      exact .separators hblank (Text.strip_eq_empty_iff.mp hnone)
    · rw [renamed_some_of_ne hnone]
      by_cases hunseparated : Unseparated (stripBlanks name)
      · rw [← Text.strip_eq_stripBlanks_iff.mpr hunseparated]
        exact .alike hblank hunseparated
      · exact .separated hunseparated
          (Bool.eq_false_iff.mpr (mt Text.strip_eq_empty_iff.mpr hnone))

/-- The empty text has no separator. -/
theorem unseparated_empty : Unseparated "" := ⟨nofun, nofun⟩

/-- What the two make of a name is the same exactly if they agree on it. -/
theorem Compared.eq_iff {known name asserted patched : String}
    (h : Compared known name asserted patched) : asserted = patched ↔ Agreed known name := by
  cases h with
  | blank blank => exact iff_of_true rfl (.unseparated (blank ▸ unseparated_empty))
  | alike nonempty unseparated => exact iff_of_true rfl (.unseparated unseparated)
  | separators nonempty spacing =>
    constructor
    · exact fun hsame => .known spacing hsame.symm
    · rintro (hunseparated | ⟨-, hsame⟩)
      -- Without separators at its ends, nothing of the name would have been left.
      · have hstrip := Text.strip_eq_stripBlanks_iff.mpr hunseparated
        rw [Text.strip_eq_empty_iff.mpr spacing] at hstrip
        exact absurd hstrip.symm nonempty
      · exact hsame.symm
  | separated separated mixed =>
    refine iff_of_false (mt Text.strip_eq_stripBlanks_iff.mp separated) ?_
    rintro (hunseparated | ⟨hspacing, -⟩)
    · exact separated hunseparated
    · exact absurd hspacing (Bool.eq_false_iff.mp mixed)

/-! ### Both names -/

/-- Where a record has a text, an accepted field holds it without the spacing around it. -/
theorem eq_strip_of_read {entries : List (Text × Datum)} {name : String} {t : Text}
    {found : Option String}
    (h : Field.read entries name (.ok none) (Field.string? ∘ Assertion.stripped) = .ok found)
    (entry : Datum.lookup (Text.ofString name) entries = some (.text t)) :
    ∃ s, t = .ofString s ∧ found = some (Text.strip s) := by
  have hread := Field.within_eq_ok.mp h
  simp only [entry, Function.comp_apply, Assertion.stripped] at hread
  split at hread
  · rename_i s hs
    simp only [Datum.str, Field.string?, Field.string, Text.toString?_ofString] at hread
    exact ⟨s, Text.toString?_eq_some.mp hs, (Except.ok.inj hread).symm⟩
  · rename_i hnone
    simp only [Field.string?, Field.string, hnone] at hread
    cases hread

/-- A record has texts for both names. -/
structure HasNames (entries : List (Text × Datum)) (first last : Text) : Prop where
  firstName : Datum.lookup (Text.ofString "first_name") entries = some (.text first)
  lastName : Datum.lookup (Text.ofString "last_name") entries = some (.text last)

/-- An accepted assertion for a user, without roles, and an accepted patch have the same names. -/
structure SameNames (u : User) (first last : Text) (a : Assertion) (patch : AttributePatch) :
    Prop where
  asserted : ∃ entries, Assertion.ofEntries entries = .ok a ∧ HasNames entries first last
  patched : ∃ entries, AttributePatch.ofEntries entries = .ok patch ∧ HasNames entries first last
  email : answers a.normalizedEmail u = true
  noRoles : a.externalRoles = []

variable {s : Store} {u : User} {first last : Text} {a : Assertion} {patch : AttributePatch}

/-- The names of an accepted assertion are strings, and it has them without spacing around them. -/
theorem SameNames.assertion_names (h : SameNames u first last a patch) :
    ∃ f l, first = .ofString f ∧ last = .ofString l ∧
      a.firstName = some (strip f) ∧ a.lastName = some (strip l) := by
  obtain ⟨entries, hread, hnames⟩ := h.asserted
  have hreads := Assertion.ofEntries_eq_ok.mp hread
  obtain ⟨f, hf, hfirst⟩ := eq_strip_of_read hreads.firstName hnames.firstName
  obtain ⟨l, hl, hlast⟩ := eq_strip_of_read hreads.lastName hnames.lastName
  exact ⟨f, l, hf, hl, hfirst, hlast⟩

/-- The patch has them without blanks around them. -/
theorem SameNames.patch_names {f l : String}
    (h : SameNames u (.ofString f) (.ofString l) a patch) :
    patch.firstName = some (stripBlanks f) ∧ patch.lastName = some (stripBlanks l) := by
  obtain ⟨entries, hread, hnames⟩ := h.patched
  have hcarries := AttributePatch.carries_of_ofEntries hread
  have hstring : ∀ t : String, Field.string (.text (.ofString t)) = .ok t := by
    simp [Field.string]
  exact ⟨(hcarries.firstName _).mpr ⟨hnames.firstName, hstring f, rfl⟩,
    (hcarries.lastName _).mpr ⟨hnames.lastName, hstring l, rfl⟩⟩

/-- Reconciling an assertion without roles for a stored user stores its names and nothing else. -/
theorem reconciled_of_mem (h : s.Consistent) (hu : u ∈ s.users)
    (email : answers a.normalizedEmail u = true) (noRoles : a.externalRoles = []) (p : Policy)
    (id : Uuid) :
    Reconciled p id 0 a s (.ok (refreshed u a)) (s.replace (refreshed u a)) [] := by
  have hfound : seen 0 a s = some u :=
    Except.ok.inj ((h.findByEmail_eq _).symm.trans (h.findByEmail_of_mem hu email))
  exact .account (.known hfound) (.noRoles noRoles)

/-- Reconciling an accepted assertion without roles for a stored user and applying an accepted patch
with the same names both succeed, and change nothing but the names of this user. What each makes of
a name is one of the four cases of `Compared`: a name of blanks alone is kept by both, and a name is
taken over by both alike unless it has an information separator at an end when its blanks are gone.
So the two leave the same rows exactly if they agree on both names. -/
theorem names_outcome (h : s.Consistent) (hu : u ∈ s.users)
    (same : SameNames u first last a patch) (p : Policy) (id : Uuid) (n : List Notice) :
    ∃ f l v w ns, first = .ofString f ∧ last = .ofString l ∧
      (reconcile p id 0 a).exec ⟨s, n⟩ = (.ok v, ⟨s.replace v, n⟩) ∧
      (syncAttributes u patch).exec ⟨s, n⟩ = (.ok w, ⟨s.replace w, n ++ ns⟩) ∧
      v = { u with firstName := v.firstName, lastName := v.lastName } ∧
      w = { u with firstName := w.firstName, lastName := w.lastName } ∧
      Compared u.firstName f v.firstName w.firstName ∧
      Compared u.lastName l v.lastName w.lastName ∧
      (s.replace v = s.replace w ↔ Agreed u.firstName f ∧ Agreed u.lastName l) := by
  obtain ⟨f, l, rfl, rfl, hfirst, hlast⟩ := same.assertion_names
  obtain ⟨hfirst', hlast'⟩ := same.patch_names
  have hasserted := (reconciled_of_mem h hu same.email same.noRoles p id).exec h n
  rw [List.append_nil] at hasserted
  have hcompared : Compared u.firstName f (refreshed u a).firstName (patched u patch).firstName ∧
      Compared u.lastName l (refreshed u a).lastName (patched u patch).lastName := by
    simp only [refreshed, patched, hfirst, hlast, hfirst', hlast']
    exact ⟨compared_renamed u.firstName f, compared_renamed u.lastName l⟩
  refine ⟨f, l, refreshed u a, patched u patch, patchNotices u patch, rfl, rfl, hasserted,
    exec_syncAttributes h hu patch n, rfl, rfl, hcompared.1, hcompared.2, ?_⟩
  rw [Store.replace_inj (v := refreshed u a) (w := patched u patch) hu rfl rfl,
    ← hcompared.1.eq_iff, ← hcompared.2.eq_iff]
  simp [refreshed, patched]

/-! ### Ada's names -/

/-- Ada, whose first name is known. -/
def knownAda : User := { ada with firstName := "Ada" }

/-- The office with Ada's first name. -/
def knownOffice : Store := { office with users := [knownAda] }

theorem consistent_knownOffice : knownOffice.Consistent :=
  ⟨by decide, by decide +kernel, by decide +kernel⟩

/-- Ada's names in a patch. -/
def profile (first last : String) : List (Text × Datum) :=
  [(Text.ofString "first_name", .str first), (Text.ofString "last_name", .str last)]

/-- An assertion for Ada with names. -/
def login (first last : String) : List (Text × Datum) :=
  (Text.ofString "email", .str " Ada@example.org") ::
    (Text.ofString "auth_provider", .str "oidc") :: profile first last

/-- Names with blanks around them are taken over by both alike. -/
theorem names_outcome_augusta :
    ∃ a patch v w ns, knownOffice.Consistent ∧ knownAda ∈ knownOffice.users ∧
      SameNames knownAda (.ofString "Augusta\n") (.ofString "\u00a0King ") a patch ∧
      (reconcile staffPolicy ⟨2⟩ 0 a).exec ⟨knownOffice, []⟩ =
        (.ok v, ⟨knownOffice.replace v, []⟩) ∧
      (syncAttributes knownAda patch).exec ⟨knownOffice, []⟩ =
        (.ok w, ⟨knownOffice.replace w, ns⟩) ∧
      knownOffice.replace v = knownOffice.replace w := by
  have hasserted : Assertion.ofEntries (login "Augusta\n" "\u00a0King ") =
      .ok ⟨"Ada@example.org", some "Augusta", some "King", none, [], .oidc⟩ := by
    decide +kernel
  have hpatched : AttributePatch.ofEntries (profile "Augusta\n" "\u00a0King ") =
      .ok ⟨some "Augusta", some "King", none, none⟩ := by
    decide +kernel
  have hu : knownAda ∈ knownOffice.users := List.mem_singleton_self knownAda
  have hsame : SameNames knownAda (.ofString "Augusta\n") (.ofString "\u00a0King ") _ _ :=
    ⟨⟨_, hasserted, rfl, rfl⟩, ⟨_, hpatched, rfl, rfl⟩, by decide +kernel, rfl⟩
  obtain ⟨f, l, v, w, ns, hf, hl, hreconciled, hsynced, -, -, -, -, hrows⟩ :=
    names_outcome consistent_knownOffice hu hsame staffPolicy ⟨2⟩ []
  obtain rfl := Text.ofString_inj.mp hf
  obtain rfl := Text.ofString_inj.mp hl
  have hfirst : Agreed knownAda.firstName "Augusta\n" :=
    .unseparated (Text.strip_eq_stripBlanks_iff.mp (by decide +kernel))
  have hlast : Agreed knownAda.lastName "\u00a0King " :=
    .unseparated (Text.strip_eq_stripBlanks_iff.mp (by decide +kernel))
  exact ⟨_, _, v, w, ns, consistent_knownOffice, hu, hsame, hreconciled, hsynced,
    hrows.mpr ⟨hfirst, hlast⟩⟩

/-- A first name that is a separator alone is blank for an assertion, which keeps the known name,
and no blank for a patch, which stores the separator in its place. -/
theorem users_of_separator :
    ∃ a patch, knownOffice.Consistent ∧ knownAda ∈ knownOffice.users ∧
      SameNames knownAda (.ofString "\u001c") (.ofString "") a patch ∧
      ((reconcile staffPolicy ⟨2⟩ 0 a).exec ⟨knownOffice, []⟩).2.store.users = [knownAda] ∧
      ((syncAttributes knownAda patch).exec ⟨knownOffice, []⟩).2.store.users =
        [{ knownAda with firstName := "\u001c" }] := by
  have hasserted : Assertion.ofEntries (login "\u001c" "") =
      .ok ⟨"Ada@example.org", some "", some "", none, [], .oidc⟩ := by
    decide +kernel
  have hpatched : AttributePatch.ofEntries (profile "\u001c" "") =
      .ok ⟨some "\u001c", some "", none, none⟩ := by
    decide +kernel
  have hu : knownAda ∈ knownOffice.users := List.mem_singleton_self knownAda
  have hsame : SameNames knownAda (.ofString "\u001c") (.ofString "") _ _ :=
    ⟨⟨_, hasserted, rfl, rfl⟩, ⟨_, hpatched, rfl, rfl⟩, by decide +kernel, rfl⟩
  have hreconciled := reconciled_of_mem consistent_knownOffice hu hsame.email hsame.noRoles
    staffPolicy ⟨2⟩
  refine ⟨_, _, consistent_knownOffice, hu, hsame, ?_, ?_⟩
  · rw [hreconciled.exec consistent_knownOffice]
    decide +kernel
  · rw [exec_syncAttributes consistent_knownOffice hu]
    decide +kernel

end FederatedLogin.Reconcile
