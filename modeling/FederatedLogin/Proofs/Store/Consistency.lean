import FederatedLogin.Proofs.Text.LowerCase
import FederatedLogin.Store
import Mathlib.Data.List.Pairwise

/-!
# What the tables of a store guarantee

A store is `Consistent` if it meets the constraints of its tables: no two roles share a slug, no two
users clash, and every user holds a stored role. Every change that the store accepts keeps it so
(`Consistent.insert`, `Consistent.update`, `Consistent.addRole`), and in a consistent store a
look-up never meets more than one row (`Consistent.findByEmail_eq`, `Consistent.findRole_eq`).

A store is `Canonical` if it is consistent and all its emails are in lower case. Then an email finds
exactly the user whose email is its lower-case form (`Canonical.answers_iff`).
-/

namespace FederatedLogin.Store

/-- The constraints of the tables hold. -/
structure Consistent (s : Store) : Prop where
  roles : s.roles.Pairwise fun r q => r.slug ≠ q.slug
  users : s.users.Pairwise fun u v => clashes u v = false
  held : ∀ u ∈ s.users, s.holdsRole u = true

/-- The constraints of the tables hold, and all emails are in lower case. -/
structure Canonical (s : Store) : Prop extends Consistent s where
  emails : ∀ u ∈ s.users, Text.lower u.email = u.email

variable {s s' : Store} {u v : User}

theorem canonical_empty : Canonical {} where
  roles := .nil
  users := .nil
  held := nofun
  emails := nofun

/-! ### Clashes and held roles -/

/-- Equal emails are equal after folding, so only identifiers and folded emails count. -/
theorem clashes_iff :
    clashes u v = true ↔ u.id = v.id ∨ Text.asciiLower u.email = Text.asciiLower v.email := by
  simp only [clashes, Bool.or_eq_true, beq_iff_eq]
  constructor
  · rintro ((h | h) | h)
    · exact .inl h
    · exact .inr (congrArg Text.asciiLower h)
    · exact .inr h
  · rintro (h | h)
    · exact .inl (.inl h)
    · exact .inr h

/-- Two rows are compatible if neither their identifiers nor their folded emails agree. -/
theorem clashes_eq_false_iff :
    clashes u v = false ↔ u.id ≠ v.id ∧ Text.asciiLower u.email ≠ Text.asciiLower v.email := by
  rw [← Bool.not_eq_true, clashes_iff, not_or]

theorem clashes_comm : clashes u v = clashes v u := by
  rw [Bool.eq_iff_iff, clashes_iff, clashes_iff]
  exact or_congr eq_comm eq_comm

theorem holdsRole_iff : s.holdsRole u = true ↔ ∃ r ∈ s.roles, r.slug = u.role := by
  simp [holdsRole]

/-- Users that clash are one user. -/
theorem Consistent.eq_of_clashes (h : s.Consistent) (hu : u ∈ s.users) (hv : v ∈ s.users)
    (hc : clashes u v = true) : u = v := by
  by_contra hne
  have : Std.Symm fun u v => clashes u v = false := ⟨fun u v h => by rwa [clashes_comm]⟩
  have := h.users.forall hu hv hne
  rw [hc] at this
  exact Bool.false_ne_true this.symm

/-- An identifier belongs to one row. -/
theorem Consistent.eq_of_id_eq (h : s.Consistent) (hu : u ∈ s.users) (hv : v ∈ s.users)
    (hid : u.id = v.id) : u = v :=
  h.eq_of_clashes hu hv (clashes_iff.mpr (.inl hid))

/-! ### Looking up -/

theorem oneOrNone_eq_none_iff {α : Type} {l : List α} : oneOrNone l = .ok none ↔ l = [] := by
  rcases l with _ | ⟨a, _ | ⟨b, l⟩⟩ <;> simp [oneOrNone]

/-- The only item that passes the test is the first one that does. -/
theorem find?_of_oneOrNone {α : Type} {p : α → Bool} {l : List α} {found : Option α}
    (h : oneOrNone (l.filter p) = .ok found) : l.find? p = found := by
  rw [← List.head?_filter]
  revert h
  rcases l.filter p with _ | ⟨a, _ | ⟨b, rest⟩⟩ <;> simp [oneOrNone]

/-- Where at most one item passes the test, the only one that passes is the first. -/
theorem oneOrNone_filter {α : Type} {p : α → Bool} {l : List α}
    (h : l.Pairwise fun a b => ¬(p a = true ∧ p b = true)) :
    oneOrNone (l.filter p) = .ok (l.find? p) := by
  induction l with
  | nil => rfl
  | cons a l ih =>
    obtain ⟨ha, hl⟩ := List.pairwise_cons.mp h
    cases hp : p a
    · rw [List.filter_cons_of_neg (by rw [hp]; exact Bool.false_ne_true),
        List.find?_cons_of_neg (by rw [hp]; exact Bool.false_ne_true)]
      exact ih hl
    · have hnone : l.filter p = [] := List.filter_eq_nil_iff.mpr fun b hb hpb => ha b hb ⟨hp, hpb⟩
      rw [List.filter_cons_of_pos hp, List.find?_cons_of_pos hp, hnone]
      rfl

/-- A lookup folds the column in ASCII only, and the email it looks for in full. -/
theorem answers_iff {email : String} :
    answers email u = true ↔ Text.asciiLower u.email = Text.lower email := beq_iff_eq

/-- An email finds at most one user. -/
theorem Consistent.findByEmail_eq (h : s.Consistent) (email : String) :
    s.findByEmail email = .ok (s.users.find? (answers email)) := by
  refine oneOrNone_filter (h.users.imp fun hc => ?_)
  rintro ⟨ha, hb⟩
  exact (clashes_eq_false_iff.mp hc).2 ((answers_iff.mp ha).trans (answers_iff.mp hb).symm)

/-- A user is found by every email that it answers to. -/
theorem Consistent.findByEmail_of_mem (h : s.Consistent) (hu : u ∈ s.users) {email : String}
    (ha : answers email u = true) : s.findByEmail email = .ok (some u) := by
  rw [h.findByEmail_eq]
  rcases hfound : s.users.find? (answers email) with _ | v
  · exact absurd ha (List.find?_eq_none.mp hfound u hu)
  · have hv := answers_iff.mp (List.find?_some hfound)
    have hclash : clashes v u = true := clashes_iff.mpr (.inr (hv.trans (answers_iff.mp ha).symm))
    rw [h.eq_of_clashes (List.mem_of_find?_eq_some hfound) hu hclash]

/-- A user is found by its identifier. -/
theorem Consistent.findById_of_mem (h : s.Consistent) (hu : u ∈ s.users) :
    s.findById u.id = some u := by
  rw [findById]
  rcases hfound : s.users.find? (·.id == u.id) with _ | v
  · exact absurd (beq_self_eq_true u.id) (List.find?_eq_none.mp hfound u hu)
  · have hid := List.find?_some hfound
    have hsame := h.eq_of_id_eq (List.mem_of_find?_eq_some hfound) hu (beq_iff_eq.mp hid)
    exact hfound.trans (congrArg some hsame)

/-- A slug finds at most one role. -/
theorem Consistent.findRole_eq (h : s.Consistent) (slug : String) :
    s.findRole slug = .ok (s.roles.find? (·.slug == slug)) := by
  refine oneOrNone_filter (h.roles.imp fun hne => ?_)
  rintro ⟨ha, hb⟩
  exact hne ((beq_iff_eq.mp ha).trans (beq_iff_eq.mp hb).symm)

/-- In a canonical store, an email finds exactly the user who has it in lower case. -/
theorem Canonical.answers_iff (h : s.Canonical) (hu : u ∈ s.users) {email : String} :
    answers email u = true ↔ u.email = Text.lower email := by
  rw [Store.answers_iff, Text.asciiLower_eq_self (h.emails u hu)]

/-! ### Adding and changing users -/

/-- **Insertion.** A row is added, at the end, exactly when its role is stored and no row clashes.
-/
theorem insert_eq_ok_iff :
    s.insert u = .ok s' ↔ s.holdsRole u = true ∧ (∀ v ∈ s.users, clashes u v = false) ∧
      s' = { s with users := s.users ++ [u] } := by
  rw [insert]
  split
  · rename_i h
    simp only [Bool.and_eq_true, Bool.not_eq_true', List.any_eq_false, Bool.not_eq_true] at h
    simp only [Except.ok.injEq, h.1, true_and]
    exact ⟨fun heq => ⟨h.2, heq.symm⟩, fun heq => heq.2.symm⟩
  · rename_i h
    simp only [Bool.and_eq_true, Bool.not_eq_true', List.any_eq_false, Bool.not_eq_true] at h
    refine ⟨nofun, fun ⟨hheld, hfree, _⟩ => absurd ⟨hheld, hfree⟩ h⟩

/-- The store refuses a user for no other reason than a conflict. -/
theorem eq_conflict_of_insert {f : Fault} (hi : s.insert u = .error f) : f = .conflict := by
  rw [insert] at hi
  split at hi
  · exact absurd hi nofun
  · exact (Except.error.inj hi).symm

/-- A draft is inserted as the complete row that it describes. -/
theorem insertDraft_eq_ok {d : Draft} (hi : s.insertDraft d = .ok (u, s')) :
    d.user? = some u ∧ s.insert u = .ok s' := by
  rw [insertDraft] at hi
  split at hi
  · exact absurd hi nofun
  rename_i v hv
  rcases hinsert : s.insert v with f | s''
  · rw [hinsert] at hi
    exact absurd hi nofun
  · rw [hinsert] at hi
    obtain ⟨rfl, rfl⟩ := Prod.mk.inj (Except.ok.inj hi)
    exact ⟨hv, hinsert⟩

theorem email_of_user? {d : Draft} (hd : d.user? = some u) : u.email = d.email := by
  obtain ⟨slug, -, rfl⟩ := Option.map_eq_some_iff.mp hd
  rfl

/-- Insertion keeps the constraints. -/
theorem Consistent.insert (h : s.Consistent) (hi : s.insert u = .ok s') : s'.Consistent := by
  obtain ⟨hheld, hfree, rfl⟩ := insert_eq_ok_iff.mp hi
  refine ⟨h.roles, List.pairwise_append.mpr ⟨h.users, List.pairwise_singleton _ _, ?_⟩, ?_⟩
  · intro v hv w hw
    obtain rfl := List.mem_singleton.mp hw
    rw [clashes_comm]
    exact hfree v hv
  · intro v hv
    rcases List.mem_append.mp hv with hv | hv
    · exact h.held v hv
    · obtain rfl := List.mem_singleton.mp hv
      exact hheld

/-- Insertion of an email in lower case keeps the emails in lower case. -/
theorem Canonical.insert (h : s.Canonical) (hu : Text.lower u.email = u.email)
    (hi : s.insert u = .ok s') : s'.Canonical := by
  refine ⟨h.toConsistent.insert hi, ?_⟩
  obtain ⟨-, -, rfl⟩ := insert_eq_ok_iff.mp hi
  intro v hv
  rcases List.mem_append.mp hv with hv | hv
  · exact h.emails v hv
  · obtain rfl := List.mem_singleton.mp hv
    exact hu

/-- **Update.** A row is replaced exactly when its role is stored and no other row clashes. -/
theorem update_eq_ok_iff :
    s.update u = .ok s' ↔ s.holdsRole u = true ∧
      (∀ v ∈ s.users, v.id ≠ u.id → clashes u v = false) ∧ s' = s.replace u := by
  rw [update]
  split
  · rename_i h
    simp only [Bool.and_eq_true, Bool.not_eq_true', List.any_eq_false, bne_iff_ne, not_and,
      Bool.not_eq_true] at h
    simp only [Except.ok.injEq, h.1, true_and]
    exact ⟨fun heq => ⟨h.2, heq.symm⟩, fun heq => heq.2.symm⟩
  · rename_i h
    simp only [Bool.and_eq_true, Bool.not_eq_true', List.any_eq_false, bne_iff_ne, not_and,
      Bool.not_eq_true] at h
    exact ⟨nofun, fun ⟨hheld, hfree, _⟩ => absurd hfree (h hheld)⟩

/-- Of the rows with the identifier only the new one is left. -/
theorem mem_replace (hv : v ∈ (s.replace u).users) : v = u ∨ v ∈ s.users ∧ v.id ≠ u.id := by
  obtain ⟨w, hw, rfl⟩ := List.mem_map.mp hv
  split
  · exact .inl rfl
  · exact .inr ⟨hw, ‹_›⟩

theorem self_mem_replace (hv : v ∈ s.users) (hid : v.id = u.id) : u ∈ (s.replace u).users :=
  List.mem_map.mpr ⟨v, hv, if_pos hid⟩

/-- Users that are put in the place of the same one leave the same store only if they are equal. -/
theorem replace_inj {w : User} (hu : u ∈ s.users) (hv : v.id = u.id) (hw : w.id = u.id) :
    s.replace v = s.replace w ↔ v = w := by
  constructor
  · intro h
    have hmem : v ∈ (s.replace w).users := h ▸ self_mem_replace hu hv.symm
    rcases mem_replace hmem with hsame | ⟨-, hother⟩
    · exact hsame
    · exact absurd (hv.trans hw.symm) hother
  · exact congrArg s.replace

/-- Users other than the one that is put in place stay. -/
theorem mem_replace_of_ne (hv : v ∈ s.users) (hne : v.id ≠ u.id) : v ∈ (s.replace u).users :=
  List.mem_map.mpr ⟨v, hv, if_neg hne⟩

/-- Putting a stored user in its own place changes nothing. -/
theorem Consistent.replace_self (h : s.Consistent) (hu : u ∈ s.users) : s.replace u = s := by
  have hsame : s.users.map (fun v => if v.id = u.id then u else v) = s.users.map id := by
    refine List.map_congr_left fun v hv => ?_
    split
    · rename_i hid
      exact h.eq_of_id_eq hu hv hid.symm
    · rfl
  rw [replace, hsame, List.map_id]

/-- Update keeps the constraints. -/
theorem Consistent.update (h : s.Consistent) (hi : s.update u = .ok s') : s'.Consistent := by
  obtain ⟨hheld, hfree, rfl⟩ := update_eq_ok_iff.mp hi
  refine ⟨h.roles, List.pairwise_map.mpr (h.users.imp_of_mem fun {v w} hv hw hc => ?_), ?_⟩
  -- Two rows cannot both give way to the user, for they would share its identifier.
  · split
    · rename_i hvu
      split
      · rename_i hwu
        exact absurd (hvu.trans hwu.symm) (clashes_eq_false_iff.mp hc).1
      · exact hfree w hw ‹_›
    · split
      · rw [clashes_comm]
        exact hfree v hv ‹_›
      · exact hc
  · intro v hv
    rcases mem_replace hv with rfl | ⟨hv, -⟩
    · exact hheld
    · exact h.held v hv

/-- Update to an email in lower case keeps the emails in lower case. -/
theorem Canonical.update (h : s.Canonical) (hu : Text.lower u.email = u.email)
    (hi : s.update u = .ok s') : s'.Canonical := by
  refine ⟨h.toConsistent.update hi, ?_⟩
  obtain ⟨-, -, rfl⟩ := update_eq_ok_iff.mp hi
  intro v hv
  rcases mem_replace hv with rfl | ⟨hv, -⟩
  · exact hu
  · exact h.emails v hv

/-- A stored user can be changed in all but identifier and email; a new role must be stored. -/
theorem Consistent.update_eq_replace (h : s.Consistent) (hv : v ∈ s.users) (hid : u.id = v.id)
    (hemail : u.email = v.email) (hrole : s.holdsRole u = true) :
    s.update u = .ok (s.replace u) := by
  refine update_eq_ok_iff.mpr ⟨hrole, fun w hw hne => ?_, rfl⟩
  have hvw : v ≠ w := by
    rintro rfl
    exact hne hid.symm
  rw [clashes_eq_false_iff]
  refine ⟨hne.symm, fun hc => hvw (h.eq_of_clashes hv hw (clashes_iff.mpr (.inr ?_)))⟩
  rw [← hemail, hc]

/-! ### Adding roles -/

/-- A role with a new slug breaks no constraint. -/
theorem Consistent.addRole (h : s.Consistent) {r : Role} (new : ∀ q ∈ s.roles, q.slug ≠ r.slug) :
    Consistent { s with roles := s.roles ++ [r] } := by
  refine ⟨List.pairwise_append.mpr ⟨h.roles, List.pairwise_singleton _ _, ?_⟩, h.users, ?_⟩
  · intro q hq r' hr'
    obtain rfl := List.mem_singleton.mp hr'
    exact new q hq
  · intro u hu
    obtain ⟨q, hq, hslug⟩ := holdsRole_iff.mp (h.held u hu)
    exact holdsRole_iff.mpr ⟨q, List.mem_append_left _ hq, hslug⟩

end FederatedLogin.Store
