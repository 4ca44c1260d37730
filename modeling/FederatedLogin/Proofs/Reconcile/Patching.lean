import FederatedLogin.Proofs.Reconcile.Repeat
import FederatedLogin.Proofs.Reconcile.SingleWrite

/-!
# What a patch changes

A patch is read from a record, and carries the texts that the record has under the names of its
fields, without the blanks around them (`AttributePatch.Carries`).

`syncAttributes_outcome` says what becomes of a stored user. Each name is the one that the patch
carries, if that is not blank, and else the one from before; all other columns and all other rows
stay, whatever the patch has for an email and for roles. An email that differs in lower case is
reported (`Reported`), and nothing else is. The second time the patch has nothing to change.
-/

namespace FederatedLogin

/-! ### Reading a patch -/

namespace AttributePatch

variable {entries : List (Text × Datum)} {patch : AttributePatch}

/-- A record has a string under a name, and `value` is that string without the blanks around it. -/
inductive Given (entries : List (Text × Datum)) (name value : String) : Prop
  | intro {d : Datum} {t : String} (entry : Datum.lookup (Text.ofString name) entries = some d)
      (string : Field.string d = .ok t) (stripped : Text.stripBlanks t = value)

/-- The texts of a patch are those that a record gives. -/
structure Carries (entries : List (Text × Datum)) (patch : AttributePatch) : Prop where
  firstName : ∀ value, patch.firstName = some value ↔ Given entries "first_name" value
  lastName : ∀ value, patch.lastName = some value ↔ Given entries "last_name" value
  email : ∀ value, patch.email = some value ↔ Given entries "email" value

/-- Null is no string, so that nothing but a string is read as one. -/
theorem string?_eq_ok_some {d : Datum} {value : String} :
    string? d = .ok (some value) ↔ ∃ t, Field.string d = .ok t ∧ Text.stripBlanks t = value := by
  have hstring : ∀ t, Field.string? d = .ok (some t) ↔ Field.string d = .ok t := by
    intro t
    cases d with
    | null => exact iff_of_false nofun nofun
    | _ => simp [Field.string?, map_eq_ok]
  rw [string?, map_eq_ok]
  constructor
  · rintro ⟨found, hfound, hvalue⟩
    obtain ⟨t, rfl, ht⟩ := Option.map_eq_some_iff.mp hvalue
    exact ⟨t, (hstring t).mp hfound, ht⟩
  · rintro ⟨t, ht, rfl⟩
    exact ⟨some t, (hstring t).mpr ht, rfl⟩

/-- What is read under a name is what the record gives there. -/
theorem eq_some_iff_given {name : String} {found : Option String}
    (h : Field.read entries name (.ok none) string? = .ok found) (value : String) :
    found = some value ↔ Given entries name value := by
  have hread := Field.within_eq_ok.mp h
  constructor
  · rintro rfl
    split at hread
    · rename_i d hentry
      obtain ⟨t, hstring, hstripped⟩ := string?_eq_ok_some.mp hread
      exact ⟨hentry, hstring, hstripped⟩
    · exact absurd hread nofun
  · rintro ⟨hentry, hstring, hstripped⟩
    rw [hentry] at hread
    have hgiven := string?_eq_ok_some.mpr ⟨_, hstring, hstripped⟩
    exact Except.ok.inj (hread.symm.trans hgiven)

/-- A patch that was read carries the texts of its record. -/
theorem carries_of_ofEntries (h : ofEntries entries = .ok patch) : Carries entries patch := by
  obtain ⟨_, roles, hmade₃, -, rfl⟩ := Field.both_eq_ok.mp h
  obtain ⟨_, email, hmade₂, hemail, rfl⟩ := Field.both_eq_ok.mp hmade₃
  obtain ⟨_, last, hmade₁, hlast, rfl⟩ := Field.both_eq_ok.mp hmade₂
  obtain ⟨_, first, hmade₀, hfirst, rfl⟩ := Field.both_eq_ok.mp hmade₁
  obtain rfl := Except.ok.inj hmade₀
  exact ⟨eq_some_iff_given hfirst, eq_some_iff_given hlast, eq_some_iff_given hemail⟩

end AttributePatch

namespace Reconcile

open Store (Consistent)

variable {s : Store} {u v : User} {patch : AttributePatch}

/-! ### Reports -/

/-- The log about a patch: a warning with the known and the new email if they differ in lower case,
and else nothing. -/
inductive Reported (u : User) (patch : AttributePatch) : List LogEntry → Prop
  | changed {email : String} (given : patch.email = some email) (nonempty : email ≠ "")
      (differs : Text.lower email ≠ Text.lower u.email) :
      Reported u patch [.event .warning "idbridge.identity.reconciler"
        "Email change detected but not updating"
        [("user_id", .str u.id.text), ("old_email", .str u.email), ("new_email", .str email)]]
  | unchanged (same : ∀ email, patch.email = some email → email ≠ "" →
      Text.lower email = Text.lower u.email) : Reported u patch []

theorem reported_patchNotices (u : User) (patch : AttributePatch) :
    Reported u patch ((patchNotices u patch).map Notice.entry) := by
  rw [patchNotices]
  split
  · rename_i hnone
    refine .unchanged fun email h => ?_
    rw [hnone] at h
    cases h
  · rename_i email hemail
    split
    · rename_i hnew
      simp only [Bool.and_eq_true, Bool.not_eq_true', bne_iff_ne] at hnew
      have hnonempty : email ≠ "" := fun h => Bool.eq_false_iff.mp hnew.1 (String.isEmpty_iff.mpr h)
      exact .changed hemail hnonempty hnew.2
    · rename_i hold
      refine .unchanged fun other h hnonempty => ?_
      obtain rfl := Option.some.inj (hemail.symm.trans h)
      have hfull : email.isEmpty = false := Bool.eq_false_iff.mpr (mt String.isEmpty_iff.mp hnonempty)
      simpa [hfull] using hold

/-! ### The stored user -/

/-- The names of a patch are known after it was applied. -/
theorem patched_patched (u : User) (patch : AttributePatch) :
    patched (patched u patch) patch = patched u patch := by
  simp only [patched, renamed_renamed]

/-- No other row has the identifier of a stored user, so that only its own row gives way. -/
theorem replace_of_mem (h : s.Consistent) (hu : u ∈ s.users) (hid : v.id = u.id) :
    s.replace v = { s with users := s.users.map fun w => if w = u then v else w } := by
  have hrow : ∀ w ∈ s.users, (if w.id = v.id then v else w) = if w = u then v else w := by
    intro w hw
    have hsame : w.id = v.id ↔ w = u := by
      rw [hid]
      exact ⟨h.eq_of_id_eq hw hu, congrArg User.id⟩
    simp only [hsame]
  rw [Store.replace, List.map_congr_left hrow]

/-- Applying a patch to a user that it was applied to changes nothing. -/
theorem exec_syncAttributes_patched (h : s.Consistent) (hu : u ∈ s.users) (patch : AttributePatch)
    (n : List Notice) :
    (syncAttributes (patched u patch) patch).exec ⟨s.replace (patched u patch), n⟩ =
      (.ok (patched u patch), ⟨s.replace (patched u patch), n ++ patchNotices u patch⟩) := by
  have hwrites := writes_syncAttributes h hu patch []
  rw [exec_syncAttributes h hu] at hwrites
  have hconsistent : (s.replace (patched u patch)).Consistent := h.writes hwrites
  have hmem : patched u patch ∈ (s.replace (patched u patch)).users :=
    Store.self_mem_replace hu rfl
  rw [exec_syncAttributes hconsistent hmem, patched_patched, hconsistent.replace_self hmem]
  rfl

/-- Applying a patch to a stored user succeeds. Each name is the one of the patch, if that is
neither missing nor blank, and else stays; so do all other columns of the user, all other users, and
the roles. It is reported that the patch has another email if it has one, and nothing else is.
Applying the patch to the result gives the same user and leaves the store as it is. A patch that was
read carries the texts of its record without the blanks around them. -/
theorem syncAttributes_outcome (h : s.Consistent) (hu : u ∈ s.users) (patch : AttributePatch)
    (n : List Notice) :
    ∃ u' s' ns, (syncAttributes u patch).exec ⟨s, n⟩ = (.ok u', ⟨s', n ++ ns⟩) ∧
      Named patch.firstName u.firstName u'.firstName ∧
      Named patch.lastName u.lastName u'.lastName ∧
      u' = { u with firstName := u'.firstName, lastName := u'.lastName } ∧
      s' = { s with users := s.users.map fun w => if w = u then u' else w } ∧
      Reported u patch (ns.map Notice.entry) ∧
      (∀ n', (syncAttributes u' patch).exec ⟨s', n'⟩ = (.ok u', ⟨s', n' ++ ns⟩)) ∧
      ∀ entries, AttributePatch.ofEntries entries = .ok patch →
        AttributePatch.Carries entries patch :=
  ⟨patched u patch, s.replace (patched u patch), patchNotices u patch,
    exec_syncAttributes h hu patch n, named_renamed _ _, named_renamed _ _, rfl,
    replace_of_mem h hu rfl, reported_patchNotices u patch,
    exec_syncAttributes_patched h hu patch, fun _ => AttributePatch.carries_of_ofEntries⟩

/-! ### A patch with a new email -/

/-- The user of the office. -/
def ada : User := { id := ⟨1⟩, email := "ada@example.org", role := "admin" }

/-- A record with a first name, a blank last name, a new email and a role. -/
def countess : List (Text × Datum) :=
  [(Text.ofString "first_name", .str " Augusta\n"), (Text.ofString "last_name", .str " "),
    (Text.ofString "email", .str "Countess@example.org"),
    (Text.ofString "roles", .list [.str "owner"])]

/-- The first name is taken over, and the new email is reported. -/
theorem syncAttributes_outcome_countess :
    ∃ patch u' s' ns, office.Consistent ∧ ada ∈ office.users ∧
      AttributePatch.ofEntries countess = .ok patch ∧
      AttributePatch.Carries countess patch ∧
      (syncAttributes ada patch).exec ⟨office, []⟩ = (.ok u', ⟨s', ns⟩) ∧
      u' = { ada with firstName := "Augusta" } ∧ s' = { office with users := [u'] } ∧
      Reported ada patch (ns.map Notice.entry) ∧ ns ≠ [] := by
  have hread : AttributePatch.ofEntries countess =
      .ok ⟨some "Augusta", some "", some "Countess@example.org", some ["owner"]⟩ := by
    decide +kernel
  have hu : ada ∈ office.users := List.mem_singleton_self ada
  obtain ⟨u', s', ns, hdone, hfirst, hlast, hu', hs', hreported, -, hcarries⟩ :=
    syncAttributes_outcome consistent_office hu
      ⟨some "Augusta", some "", some "Countess@example.org", some ["owner"]⟩ []
  have hnames : u' = { ada with firstName := "Augusta" } := by
    rw [hu', named_iff.mp hfirst, named_iff.mp hlast]
    decide
  have hoffice : s' = { office with users := [u'] } := by
    simp [hs', office, ada]
  have hwarned : ns ≠ [] := by
    rintro rfl
    generalize hlog : List.map Notice.entry [] = log at hreported
    cases hreported with
    | changed => exact absurd hlog nofun
    | unchanged same => exact absurd (same _ rfl (by decide)) (by decide +kernel)
  exact ⟨_, u', s', ns, consistent_office, hu, hread, hcarries _ hread, hdone, hnames, hoffice,
    hreported, hwarned⟩

end Reconcile

end FederatedLogin
