import FederatedLogin.Directory
import FederatedLogin.Proofs.Assertion
import FederatedLogin.Proofs.Text.LowerCase

/-!
# Whom a directory vouches for

The directory, the assertion and the store each compare emails in their own way: by ASCII letters
only, without the spacing around them, and in lower case. `normalizedEmail_of_authenticate` says
that the three agree: the assertion about a submitted email is keyed by that email in lower case.
-/

namespace FederatedLogin.Directory

variable {d : Directory} {tables : List Table} {email password : String} {e : Entry}
  {a : Assertion}

/-- A name without line ends is understood as it is written. -/
theorem understood_eq_self {name : String} (h : '\n' ∉ name.toList) : understood name = name := by
  have hall : name.toList.reverse.dropWhile (· = '\n') = name.toList.reverse := by
    rcases hlist : name.toList.reverse with _ | ⟨c, rest⟩
    · rfl
    have hc : c ∈ name.toList := List.mem_reverse.mp (hlist ▸ List.mem_cons_self)
    have hne : c ≠ '\n' := fun heq => h (heq ▸ hc)
    exact List.dropWhile_cons_of_neg (by simpa using hne)
  rw [understood, hall, List.reverse_reverse, String.ofList_toList, ite_self]

/-- A row is found by the lower-case form of its email. -/
theorem lowered_of_find (h : d.find tables email = .ok (some e)) :
    lowered e.email = some (Text.lower email) := by
  rw [find] at h
  split at h
  · exact absurd h nofun
  split at h
  · exact absurd h nofun
  rename_i t c _ _ row hrow
  -- The row was compared by its cell, and the entry keeps the cell as it is.
  obtain ⟨entry, hentry, hsome⟩ := map_eq_ok.mp h
  obtain rfl := Option.some.inj hsome
  have hemail : entry.email = cell row c.email := by
    rw [entryOf] at hentry
    split at hentry
    · obtain rfl := Except.ok.inj hentry
      rfl
    · exact absurd hentry nofun
    · exact absurd hentry nofun
  rw [hemail]
  have hsame := List.find?_some hrow
  exact beq_iff_eq.mp hsame

/-- The directory vouches for a user whose row it finds and whose password fits. -/
theorem authenticate_eq_some :
    d.authenticate tables email password = .ok (some a) ↔
      ∃ e, d.find tables email = .ok (some e) ∧
        Password.checkStored password e.passwordHash = .ok true ∧ e.assertion = .ok a := by
  constructor
  · intro h
    obtain ⟨found, hfind, h⟩ := bind_eq_ok.mp h
    rcases found with _ | e
    · exact absurd h nofun
    obtain ⟨fits, hfits, h⟩ := bind_eq_ok.mp h
    cases fits with
    | false => exact absurd h nofun
    | true =>
      obtain ⟨a', hassertion, h⟩ := bind_eq_ok.mp h
      obtain rfl := Option.some.inj (Except.ok.inj h)
      exact ⟨e, hfind, mapError_eq_ok.mp hfits, hassertion⟩
  · rintro ⟨e, hfind, hfits, hassertion⟩
    refine bind_eq_ok.mpr ⟨some e, hfind, bind_eq_ok.mpr ⟨true, mapError_eq_ok.mpr hfits, ?_⟩⟩
    exact bind_eq_ok.mpr ⟨a, hassertion, rfl⟩

/-- The look-up fails without a row, or for the roles in it. -/
theorem error_of_find {f : Failure} (h : d.find tables email = .error f) :
    f = .queryFailed ∨ f = .unreadableRow ∨ f = .rolesTooDeep := by
  rw [find] at h
  split at h
  · exact .inl (Except.error.inj h).symm
  split at h
  · exact absurd h nofun
  rename_i c _ _ row _
  rcases hentry : entryOf c row with g | e
  · rw [hentry] at h
    obtain rfl := Except.error.inj h
    rw [entryOf] at hentry
    split at hentry
    · exact absurd hentry nofun
    · exact .inr (.inr (Except.error.inj hentry).symm)
    · exact .inr (.inl (Except.error.inj hentry).symm)
  · rw [hentry] at h
    exact absurd h nofun

/-- An authentication fails where one of its steps does. -/
theorem authenticate_eq_error {f : Failure} :
    d.authenticate tables email password = .error f ↔
      d.find tables email = .error f ∨
        ∃ e, d.find tables email = .ok (some e) ∧
          ((∃ flaw, Password.checkStored password e.passwordHash = .error flaw ∧
              f = .hashNotText flaw) ∨
            Password.checkStored password e.passwordHash = .ok true ∧ e.assertion = .error f) := by
  rw [authenticate]
  rcases d.find tables email with g | _ | e
  · simp [bind, Except.bind]
  · simp [bind, Except.bind, pure, Except.pure]
  · rcases hfits : Password.checkStored password e.passwordHash with flaw | fits
    · simp [bind, Except.bind, hfits, eq_comm]
    · cases fits
      · simp [bind, Except.bind, hfits, pure, Except.pure]
      · rcases hassertion : e.assertion with g | a <;>
          simp [bind, Except.bind, hfits, pure, Except.pure, hassertion]

theorem error_of_assertion {f : Failure} (h : e.assertion = .error f) :
    f = .invalidIdentity e.id := by
  rw [Entry.assertion] at h
  rcases hmade : Assertion.ofEntries _ with faults | a
  · rw [hmade] at h
    exact (Except.error.inj h).symm
  · rw [hmade] at h
    exact absurd h nofun

/-- The email of a vouched assertion is the string in the row's cell, without the spacing around
it. -/
theorem string_of_assertion (h : e.assertion = .ok a) :
    Field.string (Assertion.stripped e.email) = .ok a.email := by
  have hread := (Assertion.ofEntries_eq_ok.mp (mapError_eq_ok.mp h)).email
  rw [List.map_cons, Field.read_cons_self] at hread
  exact (Assertion.string_of_bounded (Field.within_eq_ok.mp hread)).1

/-- The assertion that comes of a submitted email is keyed by that email in lower case. -/
theorem normalizedEmail_of_authenticate {submitted : String}
    (h : d.authenticate tables (Text.strip submitted) password = .ok (some a)) :
    a.normalizedEmail = Text.lower (Text.strip submitted) := by
  obtain ⟨e, hfind, -, hassertion⟩ := authenticate_eq_some.mp h
  have hlowered := lowered_of_find hfind
  have hstring := string_of_assertion hassertion
  rw [Assertion.normalizedEmail]
  -- Only strings make an email; a string in bytes is not stripped.
  cases hcell : e.email with
  | text t =>
    rw [hcell] at hlowered hstring
    obtain ⟨s, hs, hlower⟩ := Option.map_eq_some_iff.mp hlowered
    simp only [Assertion.stripped, hs, Field.string, Datum.str, Text.toString?_ofString,
      Except.ok.injEq] at hstring
    rw [← hstring, Text.strip_eq_self_of_asciiLower hlower, Text.lower_eq_of_asciiLower_eq hlower]
  | bytes bs =>
    rw [hcell] at hlowered hstring
    obtain ⟨s, hs, hlower⟩ := Option.map_eq_some_iff.mp hlowered
    simp only [Assertion.stripped, Field.string, hs, Except.ok.injEq] at hstring
    rw [← hstring, Text.lower_eq_of_asciiLower_eq hlower]
  | null | bool | int | float | list | record =>
    rw [hcell] at hstring
    exact absurd hstring nofun

end FederatedLogin.Directory
