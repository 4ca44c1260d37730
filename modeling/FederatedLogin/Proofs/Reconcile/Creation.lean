import FederatedLogin.Proofs.Reconcile.SingleWrite
import FederatedLogin.Proofs.Reconcile.Uniqueness

/-!
# Creating a user

A user that the store refuses is said to have an email that is taken. For a user with a stored role
and a new identifier (`Storable`) this is true: it is refused exactly if its email finds somebody. A
user without a stored role, or with an identifier that is there already, is refused in the same
words, whether its email finds somebody or not (`create_outcome`).

A refused user leaves no trace. Whatever is done next goes as if nobody had tried to create it.
-/

namespace FederatedLogin.Reconcile

variable {s : Store} {d : Draft}

/-- A new user has all that the store asks for besides its email: a stored role and an identifier
that nobody has. -/
structure Storable (s : Store) (d : Draft) : Prop where
  role : ∃ r ∈ s.roles, d.role = some r.slug
  fresh : s.Fresh d.id

/-- The user that is stored for a draft with a role: its email is in lower case. -/
def drafted (d : Draft) (role : String) : User :=
  ⟨d.id, Text.lower d.email, d.firstName, d.lastName, role, d.hashedPassword, d.isActive,
    d.provider, d.externalId⟩

/-- Without a role, a draft is refused. -/
theorem exec_create_of_none (h : d.role = none) (s : Store) (ns : List Notice) :
    (create d).exec ⟨s, ns⟩ = (.error (.duplicateEmail (Text.lower d.email)), ⟨s, ns⟩) := by
  rw [exec_create, Store.insertDraft, Draft.user?, h]
  rfl

/-- With a role, it is stored if the store accepts the user. -/
theorem exec_create_of_some {role : String} (h : d.role = some role) (s : Store)
    (ns : List Notice) :
    (create d).exec ⟨s, ns⟩ = match s.insert (drafted d role) with
      | .ok s' => (.ok (drafted d role), ⟨s', ns⟩)
      | .error _ => (.error (.duplicateEmail (Text.lower d.email)), ⟨s, ns⟩) := by
  have hdraft : s.insertDraft { d with email := Text.lower d.email } =
      (s.insert (drafted d role)).map (drafted d role, ·) := by
    rw [Store.insertDraft, Draft.user?, h]
    rfl
  rw [exec_create, hdraft]
  cases s.insert (drafted d role) <;> rfl

/-- A user with a role is accepted exactly if it is storable and its email finds nobody. -/
theorem exists_insert_drafted {role : String} (h : d.role = some role) :
    (∃ s', s.insert (drafted d role) = .ok s') ↔
      Storable s d ∧ s.findByEmail d.email = .ok none := by
  have hstorable : Storable s d ↔ s.holdsRole (drafted d role) = true ∧ s.Fresh d.id := by
    rw [Store.holdsRole_iff]
    constructor
    · rintro ⟨⟨r, hr, hrole⟩, hfresh⟩
      exact ⟨⟨r, hr, Option.some.inj (hrole.symm.trans h)⟩, hfresh⟩
    · rintro ⟨⟨r, hr, hrole⟩, hfresh⟩
      exact ⟨⟨r, hr, h.trans (congrArg some hrole.symm)⟩, hfresh⟩
  rw [Store.exists_insert_iff, hstorable, Store.findByEmail_eq_none_iff, and_assoc]
  rfl

/-- A draft is stored at the end of the users, or it is refused without a trace. The former happens
exactly if it is storable and its email finds nobody. -/
theorem exec_create_cases (d : Draft) (s : Store) (ns : List Notice) :
    ((Storable s d ∧ s.findByEmail d.email = .ok none) ∧
        ∃ role s', d.role = some role ∧ s.insert (drafted d role) = .ok s' ∧
          (create d).exec ⟨s, ns⟩ = (.ok (drafted d role), ⟨s', ns⟩)) ∨
      ¬(Storable s d ∧ s.findByEmail d.email = .ok none) ∧
        (create d).exec ⟨s, ns⟩ = (.error (.duplicateEmail (Text.lower d.email)), ⟨s, ns⟩) := by
  rcases hrole : d.role with _ | role
  · refine .inr ⟨?_, exec_create_of_none hrole s ns⟩
    rintro ⟨⟨⟨r, -, hr⟩, -⟩, -⟩
    exact absurd (hr.symm.trans hrole) nofun
  · rw [exec_create_of_some hrole, ← exists_insert_drafted hrole]
    rcases hinsert : s.insert (drafted d role) with fault | s'
    · exact .inr ⟨nofun, rfl⟩
    · exact .inl ⟨⟨s', rfl⟩, role, s', rfl, hinsert, rfl⟩

/-- In a store that meets its constraints, a user with a stored role and a new identifier is refused
exactly if its email finds somebody, and every user without these is refused. The error is always
that the email is taken. A refusal changes and reports nothing, and what is done after it goes as if
nobody had tried; a user who is accepted comes last, and is found by its email from then on. -/
theorem create_outcome (h : s.Consistent) (d : Draft) (ns : List Notice) :
    (Storable s d →
        (((create d).exec ⟨s, ns⟩).1 = .error (.duplicateEmail (Text.lower d.email)) ↔
          ∃ u, s.findByEmail d.email = .ok (some u))) ∧
      ((∃ u, s.findByEmail d.email = .ok (some u)) ∨ ¬Storable s d →
        ((create d).exec ⟨s, ns⟩).1 = .error (.duplicateEmail (Text.lower d.email))) ∧
      (∀ f, ((create d).exec ⟨s, ns⟩).1 = .error f →
        f = .duplicateEmail (Text.lower d.email) ∧ ((create d).exec ⟨s, ns⟩).2 = ⟨s, ns⟩ ∧
          ∀ (ε α : Type) (later : Action ε α),
            (do let _ ← (create d).run; later : Action ε α).exec ⟨s, ns⟩ = later.exec ⟨s, ns⟩) ∧
      ∀ u, ((create d).exec ⟨s, ns⟩).1 = .ok u →
        (∃ role, d.role = some role ∧ u = drafted d role) ∧
          ∃ s', ((create d).exec ⟨s, ns⟩).2 = ⟨s', ns⟩ ∧ s'.users = s.users ++ [u] ∧
            s'.roles = s.roles ∧ s'.Consistent ∧ s'.findByEmail d.email = .ok (some u) := by
  -- At most one user answers to an email, so that a look-up never fails.
  have found_iff :
      (∃ u, s.findByEmail d.email = .ok (some u)) ↔ s.findByEmail d.email ≠ .ok none := by
    rw [h.findByEmail_eq]
    cases s.users.find? (Store.answers d.email) <;> simp
  rw [found_iff]
  rcases exec_create_cases d s ns with
    ⟨⟨storable, absent⟩, role, s', hrole, hinsert, hexec⟩ | ⟨hnot, hexec⟩
  · rw [hexec]
    refine ⟨fun _ => iff_of_false nofun (not_not_intro absent), ?_, nofun, ?_⟩
    · rintro (hfound | hstorable)
      · exact absurd absent hfound
      · exact absurd storable hstorable
    · rintro u hu
      obtain rfl := Except.ok.inj hu
      obtain ⟨-, -, rfl⟩ := Store.insert_eq_ok_iff.mp hinsert
      have consistent := h.insert hinsert
      refine ⟨⟨role, hrole, rfl⟩, _, rfl, rfl, rfl, consistent,
        consistent.findByEmail_of_mem ?_ ?_⟩
      · exact List.mem_append_right _ (List.mem_singleton_self _)
      · exact Store.answers_iff_folded.mpr rfl
  · have found (storable : Storable s d) : s.findByEmail d.email ≠ .ok none :=
      fun absent => hnot ⟨storable, absent⟩
    rw [hexec]
    refine ⟨fun storable => iff_of_true rfl (found storable), fun _ => rfl, ?_, nofun⟩
    rintro f hf
    obtain rfl := Except.error.inj hf
    refine ⟨rfl, rfl, fun ε α later => ?_⟩
    rw [Action.exec_bind, Action.exec_run, hexec]

/-- A new user whose email is stored in another case of letters. -/
def secondAda : Draft := { id := ⟨2⟩, email := "ADA@example.org", role := some "member" }

/-- The email of a stored user is refused in any case of letters, and the store stays as it is. -/
theorem create_outcome_office :
    office.Consistent ∧ Storable office secondAda ∧
      ((create secondAda).exec ⟨office, []⟩).1 = .error (.duplicateEmail "ada@example.org") ∧
      ((create secondAda).exec ⟨office, []⟩).2 = ⟨office, []⟩ := by
  obtain ⟨hstorable, -, hrefused, -⟩ := create_outcome consistent_office secondAda []
  have storable : Storable office secondAda := ⟨⟨member, List.mem_cons_self, rfl⟩, by decide⟩
  have found : office.findByEmail secondAda.email =
      .ok (some { id := ⟨1⟩, email := "ada@example.org", role := "admin" }) := by decide +kernel
  have refused := (hstorable storable).mpr ⟨_, found⟩
  exact ⟨consistent_office, storable, refused, (hrefused _ refused).2.1⟩

/-- In an empty store, a user without a role is refused as one whose email is taken, though its
email finds nobody. -/
theorem create_without_role :
    ((create { id := ⟨1⟩, email := "ada@example.org", role := none }).exec ⟨{}, []⟩).1 =
        .error (.duplicateEmail "ada@example.org") ∧
      Store.findByEmail {} "ada@example.org" = .ok none := by
  decide +kernel

end FederatedLogin.Reconcile
