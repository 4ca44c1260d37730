import FederatedLogin.Proofs.Reconcile.Independence

/-!
# Looking up and adding agree

Two unique indexes decide whether a user can be added: one holds the stored emails as they are
(`EmailTaken`), the other one their form in lower case (`FoldedTaken`), for which the store folds
ASCII letters only. The look-up by email folds the stored emails in the same way, but the email that
is looked for in full. For a new email in lower case this makes no difference, whatever the stored
emails look like: the look-up finds nobody exactly if neither index has the email
(`findByEmail_eq_none_iff`).

So a user who is not found can be added, and a reconciliation whose look-ups all see the store never
hears that an email is taken (`lookUp_agrees_with_indexes`).
-/

namespace FederatedLogin.Store

variable {s : Store} {u v : User} {email : String}

/-! ### The indexes -/

/-- The index on emails has the email. -/
def EmailTaken (s : Store) (email : String) : Prop := ∃ v ∈ s.users, v.email = email

/-- The index on emails in lower case has that form of the email. -/
def FoldedTaken (s : Store) (email : String) : Prop :=
  ∃ v ∈ s.users, Text.asciiLower v.email = Text.asciiLower email

/-- A user can be added exactly if the role is stored, the identifier is new, and neither index has
the email. -/
theorem exists_insert_iff :
    (∃ s', s.insert u = .ok s') ↔ s.holdsRole u = true ∧ s.Fresh u.id ∧
      ¬s.EmailTaken u.email ∧ ¬s.FoldedTaken u.email := by
  constructor
  · rintro ⟨s', hinsert⟩
    obtain ⟨held, free, -⟩ := insert_eq_ok_iff.mp hinsert
    refine ⟨held, fun v hv hid => ?_, ?_, ?_⟩
    · exact (clashes_eq_false_iff.mp (free v hv)).1 hid.symm
    · rintro ⟨v, hv, hemail⟩
      exact (clashes_eq_false_iff.mp (free v hv)).2 (congrArg Text.asciiLower hemail.symm)
    · rintro ⟨v, hv, hfolded⟩
      exact (clashes_eq_false_iff.mp (free v hv)).2 hfolded.symm
  · rintro ⟨held, fresh, -, untaken⟩
    refine ⟨_, insert_eq_ok_iff.mpr ⟨held, fun v hv => ?_, rfl⟩⟩
    rw [clashes_eq_false_iff]
    exact ⟨fun hid => fresh v hv hid.symm, fun hfolded => untaken ⟨v, hv, hfolded.symm⟩⟩

/-! ### The look-up -/

/-- Those who answer to an email are those whom the index on emails in lower case would hold against
its lower-case form. -/
theorem answers_iff_folded :
    answers email v = true ↔ Text.asciiLower v.email = Text.asciiLower (Text.lower email) := by
  rw [answers_iff, Text.asciiLower_lower]

/-- An email finds nobody exactly if neither index has its lower-case form. -/
theorem findByEmail_eq_none_iff :
    s.findByEmail email = .ok none ↔
      ¬s.EmailTaken (Text.lower email) ∧ ¬s.FoldedTaken (Text.lower email) := by
  rw [findByEmail, oneOrNone_eq_none_iff, List.filter_eq_nil_iff]
  constructor
  · intro hnobody
    have untaken : ¬s.FoldedTaken (Text.lower email) := by
      rintro ⟨v, hv, hfolded⟩
      exact hnobody v hv (answers_iff_folded.mpr hfolded)
    refine ⟨?_, untaken⟩
    rintro ⟨v, hv, hemail⟩
    exact untaken ⟨v, hv, congrArg Text.asciiLower hemail⟩
  · rintro ⟨-, untaken⟩ v hv hanswers
    exact untaken ⟨v, hv, answers_iff_folded.mp hanswers⟩

/-- Under a new identifier and with a stored role, exactly those can be added whose email finds
nobody. -/
theorem exists_insert_iff_findByEmail (lower : u.email = Text.lower email)
    (held : s.holdsRole u = true) (fresh : s.Fresh u.id) :
    (∃ s', s.insert u = .ok s') ↔ s.findByEmail email = .ok none := by
  rw [exists_insert_iff, findByEmail_eq_none_iff, lower]
  exact ⟨fun h => h.2.2, fun h => ⟨held, fresh, h⟩⟩

end FederatedLogin.Store

namespace FederatedLogin.Reconcile

open Store (Consistent)

variable {p : Policy} {id : Uuid} {a : Assertion} {s s' : Store} {f : Failure} {ns : List Notice}

/-! ### Reconciliations that see the store -/

/-- A user that the look-up does not see is not refused as a duplicate. -/
theorem Account.ne_duplicateEmail (fresh : s.Fresh id)
    (ha : Account p id 0 a s (.error f) s' ns) (email : String) : f ≠ .duplicateEmail email := by
  cases ha with
  | disabled | noDefaultRole =>
    intro duplicate
    cases duplicate
  | lost unseen on default refused =>
    have held := List.mem_of_find?_eq_some default
    rw [seen, if_pos rfl] at unseen
    rw [(insert_newUser_eq_ok_iff fresh held).mpr ⟨unseen, rfl⟩] at refused
    cases refused

theorem Reconciled.ne_duplicateEmail (fresh : s.Fresh id)
    (hr : Reconciled p id 0 a s (.error f) s' ns) (email : String) : f ≠ .duplicateEmail email := by
  cases hr with
  | noAccount account => exact account.ne_duplicateEmail fresh email
  | account _ roleStep =>
    intro duplicate
    cases roleStep <;> cases duplicate

/-- In a store that meets its constraints, whatever the case of the stored emails and whatever their
letters are, an email finds one user or nobody. It finds nobody exactly if neither unique index has
its lower-case form, and so exactly if a new user with this email is accepted. Hence a
reconciliation whose look-ups see the store ends neither with an email that is taken nor with a
failure of the store, such as a second row for an email. -/
theorem lookUp_agrees_with_indexes (h : s.Consistent) :
    (∀ email, (∃ found, s.findByEmail email = .ok found) ∧
        (s.findByEmail email = .ok none ↔
          ¬s.EmailTaken (Text.lower email) ∧ ¬s.FoldedTaken (Text.lower email)) ∧
        ∀ u, u.email = Text.lower email → s.holdsRole u = true → s.Fresh u.id →
          ((∃ s', s.insert u = .ok s') ↔ s.findByEmail email = .ok none)) ∧
      ∀ p id a, s.Fresh id →
        (∀ email, ((reconcile p id 0 a).start s).1 ≠ .error (.duplicateEmail email)) ∧
          ∀ fault, ((reconcile p id 0 a).start s).1 ≠ .error (.store fault) := by
  refine ⟨fun email => ⟨⟨_, h.findByEmail_eq email⟩, Store.findByEmail_eq_none_iff, ?_⟩, ?_⟩
  · exact fun u lower held fresh => Store.exists_insert_iff_findByEmail lower held fresh
  · intro p id a fresh
    obtain ⟨r, s', ns, hr⟩ := exists_reconciled p id 0 a s
    rw [(start_eq_iff h).mpr hr]
    constructor
    · rintro email rfl
      exact hr.ne_duplicateEmail fresh email rfl
    · rintro fault rfl
      exact hr.ne_store fault rfl

/-! ### Emails in another case -/

/-- A store with two users who were not created by the program: the emails have capital letters, one
of them beyond ASCII. -/
def imported : Store where
  roles := [member]
  users := [{ id := ⟨1⟩, email := "Ada@Example.org", role := "member" },
    { id := ⟨2⟩, email := "Émilie@Example.org", role := "member" }]

/-- Somebody who logs in with an email that differs from the second one in the case of letters. -/
def emilie : Assertion where
  email := "émilie@example.org"
  firstName := none
  lastName := none
  externalId := none
  externalRoles := []
  provider := .oidc

/-- In the store of imported users, the email with the first letter in another case finds nobody,
and indeed the user can be added; the ASCII email is found in any case and cannot be added. -/
theorem lookUp_agrees_with_indexes_imported :
    imported.Consistent ∧ imported.Fresh ⟨3⟩ ∧
      (¬imported.EmailTaken emilie.normalizedEmail ∧
        ¬imported.FoldedTaken emilie.normalizedEmail) ∧
      (∃ s', imported.insert (newUser ⟨3⟩ member emilie) = .ok s') ∧
      (∃ u, ((reconcile staffPolicy ⟨3⟩ 0 emilie).start imported).1 = .ok u) ∧
      (¬∃ s', imported.insert { id := ⟨3⟩, email := "ada@example.org", role := "member" } =
        .ok s') ∧
      ∀ email, ((reconcile staffPolicy ⟨3⟩ 0 emilie).start imported).1 ≠
        .error (.duplicateEmail email) := by
  have consistent : imported.Consistent := ⟨by decide, by decide +kernel, by decide +kernel⟩
  have fresh : imported.Fresh ⟨3⟩ := by decide
  obtain ⟨hemails, hreconcile⟩ := lookUp_agrees_with_indexes consistent
  have absent : imported.findByEmail emilie.email = .ok none := by decide +kernel
  have present : imported.findByEmail "ADA@example.org" ≠ .ok none := by decide +kernel
  obtain ⟨-, hindexes, hinsert⟩ := hemails emilie.email
  refine ⟨consistent, fresh, hindexes.mp absent, ?_, ?_, fun hada => present ?_, ?_⟩
  · exact (hinsert _ rfl (by decide) fresh).mpr absent
  · exact ⟨newUser ⟨3⟩ member emilie, by decide +kernel⟩
  · exact ((hemails "ADA@example.org").2.2 _ (by decide +kernel) (by decide) fresh).mp hada
  · exact (hreconcile staffPolicy ⟨3⟩ emilie fresh).1

end FederatedLogin.Reconcile
