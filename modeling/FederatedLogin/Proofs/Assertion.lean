import FederatedLogin.Assertion
import FederatedLogin.Proofs.Results

/-!
# What an accepted assertion says

An assertion is accepted exactly if each of its fields is, and it consists of what the fields were
read as (`ofEntries_eq_ok`). A bounded field such as the email holds the string that the value is
(`string_of_bounded`).
-/

namespace FederatedLogin.Assertion

variable {entries : List (Text × Datum)} {a : Assertion}

/-- What the fields of an assertion are read as. -/
structure Reads (entries : List (Text × Datum)) (a : Assertion) : Prop where
  email : Field.read entries "email" (Field.flawed .missing) (bounded 1 maxEmail ∘ stripped) =
    .ok a.email
  firstName : Field.read entries "first_name" (.ok none) (Field.string? ∘ stripped) =
    .ok a.firstName
  lastName : Field.read entries "last_name" (.ok none) (Field.string? ∘ stripped) = .ok a.lastName
  externalId : Field.read entries "external_user_id" (.ok none) (Field.string? ∘ stripped) =
    .ok a.externalId
  externalRoles : Field.read entries "external_roles" (.ok []) (Field.strings .notTuple) =
    .ok a.externalRoles
  provider : Field.read entries "auth_provider" (Field.flawed .missing) provider? = .ok a.provider

theorem ofEntries_eq_ok : ofEntries entries = .ok a ↔ Reads entries a := by
  constructor
  · intro h
    obtain ⟨_, provider, hmade₅, hprovider, rfl⟩ := Field.both_eq_ok.mp h
    obtain ⟨_, roles, hmade₄, hroles, rfl⟩ := Field.both_eq_ok.mp hmade₅
    obtain ⟨_, externalId, hmade₃, hexternalId, rfl⟩ := Field.both_eq_ok.mp hmade₄
    obtain ⟨_, last, hmade₂, hlast, rfl⟩ := Field.both_eq_ok.mp hmade₃
    obtain ⟨_, first, hmade₁, hfirst, rfl⟩ := Field.both_eq_ok.mp hmade₂
    obtain ⟨_, email, hmade₀, hemail, rfl⟩ := Field.both_eq_ok.mp hmade₁
    obtain rfl := Except.ok.inj hmade₀
    exact ⟨hemail, hfirst, hlast, hexternalId, hroles, hprovider⟩
  · intro h
    simp only [ofEntries, h.email, h.firstName, h.lastName, h.externalId, h.externalRoles,
      h.provider, Field.both]

/-- An email within bounds is the string that the value holds. -/
theorem string_of_bounded {least most : Nat} {d : Datum} {s : String}
    (h : bounded least most d = .ok s) :
    Field.string d = .ok s ∧ least ≤ s.length ∧ s.length ≤ most := by
  obtain ⟨t, hstring, h⟩ := bind_eq_ok.mp h
  split at h
  · exact absurd h nofun
  · split at h
    · exact absurd h nofun
    · obtain rfl := Except.ok.inj h
      exact ⟨hstring, by omega, by omega⟩

end FederatedLogin.Assertion
