import FederatedLogin.Database.Schema
import FederatedLogin.Proofs.Assertion
import FederatedLogin.Proofs.Text.Spacing

/-!
# The key of an asserted account

An account is looked up and stored under the email of an assertion in lower case. What such a key
should be is said by `IsKey`: it fits the column of emails, has no spacing around it, and stays as
it is in lower case.

The email that an assertion is accepted with comes from a string, which is stripped, or from bytes
in UTF-8, which are not (`Given`). It has 1 to 255 characters, but these are counted before it is
lower-cased, and every dotted capital adds one. So the key is never empty and always in lower case,
and `normalizedEmail_outcome` says when it is all that it should be.
-/

namespace FederatedLogin.Database.ColumnType

/-- A column of the type has room for the text. -/
def HasRoom : ColumnType → String → Prop
  | name width, s => s.length ≤ width
  | _, _ => True

end FederatedLogin.Database.ColumnType

namespace FederatedLogin.Assertion

open Text (strip lower dottedCapitals)

variable {entries : List (Text × Datum)} {a : Assertion} {d : Datum} {s : String}

/-- What the key of an account should be. -/
structure IsKey (s : String) : Prop where
  nonempty : 1 ≤ s.length
  fits : ∀ c ∈ Database.Model.users.fields, c.name = "email" → c.type.HasRoom s
  trimmed : strip s = s
  lowered : lower s = s

/-- How the value of the email field gives the email: a string is stripped, and bytes are read. -/
inductive Given : Datum → String → Prop
  | string (s : String) : Given (.str s) (strip s)
  | bytes {bs : List UInt8} {s : String} (read : String.fromUTF8? ⟨bs.toArray⟩ = some s) :
      Given (.bytes bs) s

/-- The column of emails is as wide as the longest email of an assertion. -/
theorem fits_iff :
    (∀ c ∈ Database.Model.users.fields, c.name = "email" → c.type.HasRoom s) ↔
      s.length ≤ maxEmail := by
  constructor
  · intro h
    exact h ⟨"email", .name 255, true, none⟩ List.mem_cons_self rfl
  · intro h c hc hname
    have honly : ∀ c ∈ Database.Model.users.fields, c.name = "email" → c.type = .name maxEmail := by
      decide
    rw [honly c hc hname]
    exact h

/-- Only strings and bytes give an email. -/
theorem given_of_string (h : Field.string (stripped d) = .ok s) : Given d s := by
  cases d with
  | text t =>
    rcases ht : t.toString? with _ | u
    · simp only [stripped, ht, Field.string] at h
      exact absurd h nofun
    · simp only [stripped, ht, Field.string, Datum.str, Text.toString?_ofString,
        Except.ok.injEq] at h
      rw [Text.toString?_eq_some.mp ht, ← h]
      exact .string u
  | bytes bs =>
    rcases hs : String.fromUTF8? ⟨bs.toArray⟩ with _ | u
    · simp only [stripped, Field.string, hs] at h
      exact absurd h nofun
    · simp only [stripped, Field.string, hs, Except.ok.injEq] at h
      exact .bytes (h ▸ hs)
  | null | bool | int | float | list | record => exact absurd h nofun

/-- No spacing is left around an email that was given as a string. -/
theorem Given.trimmed {e : String} (h : Given (.str s) e) : strip e = e := by
  generalize hvalue : Datum.str s = d at h
  cases h with
  | string u => exact Text.strip_eq_self_iff.mpr (Text.trimmed_strip u)
  | bytes => exact absurd hvalue nofun

/-- The email of an accepted assertion is given by the value of its field, and is within bounds. -/
theorem exists_given (h : ofEntries entries = .ok a) :
    ∃ d, Datum.lookup (Text.ofString "email") entries = some d ∧ Given d a.email ∧
      1 ≤ a.email.length ∧ a.email.length ≤ maxEmail := by
  have hread := Field.within_eq_ok.mp (ofEntries_eq_ok.mp h).email
  rcases hentry : Datum.lookup (Text.ofString "email") entries with _ | d
  · rw [hentry] at hread
    exact absurd hread nofun
  · rw [hentry] at hread
    -- The bounds are those of the email that is read, before it is lower-cased.
    obtain ⟨hstring, hbounds⟩ := string_of_bounded hread
    exact ⟨d, rfl, given_of_string hstring, hbounds⟩

/-- Lower-casing keeps a text free of spacing around it, and gives it none. -/
theorem strip_normalizedEmail_iff (a : Assertion) :
    strip a.normalizedEmail = a.normalizedEmail ↔ strip a.email = a.email := by
  rw [Text.strip_eq_self_iff, Text.strip_eq_self_iff, normalizedEmail, Text.trimmed_lower_iff]

theorem isKey_normalizedEmail_iff (hne : 1 ≤ a.email.length) :
    IsKey a.normalizedEmail ↔
      a.email.length + dottedCapitals a.email ≤ maxEmail ∧ strip a.email = a.email := by
  have hlength : a.normalizedEmail.length = a.email.length + dottedCapitals a.email :=
    Text.length_lower a.email
  constructor
  · intro h
    refine ⟨?_, (strip_normalizedEmail_iff a).mp h.trimmed⟩
    rw [← hlength]
    exact fits_iff.mp h.fits
  · rintro ⟨hroom, htrimmed⟩
    exact ⟨by omega, fits_iff.mpr (by omega), (strip_normalizedEmail_iff a).mpr htrimmed,
      Text.lower_lower a.email⟩

/-- The key of an accepted assertion is never empty, it is longer than the email by the dotted
capitals in it, and it stays as it is in lower case. There is no spacing around it if the email was
given as a string; an email in bytes keeps its spacing. So the key is all that it should be exactly
if it has room for one more character for each dotted capital and has no spacing around it. -/
theorem normalizedEmail_outcome (h : ofEntries entries = .ok a) :
    ∃ d, Datum.lookup (Text.ofString "email") entries = some d ∧ Given d a.email ∧
      1 ≤ a.normalizedEmail.length ∧
      a.normalizedEmail.length = a.email.length + dottedCapitals a.email ∧
      lower a.normalizedEmail = a.normalizedEmail ∧
      (∀ s, d = .str s → strip a.normalizedEmail = a.normalizedEmail) ∧
      (IsKey a.normalizedEmail ↔
        a.email.length + dottedCapitals a.email ≤ maxEmail ∧ strip a.email = a.email) := by
  obtain ⟨d, hentry, hgiven, hleast, -⟩ := exists_given h
  have hlength : a.normalizedEmail.length = a.email.length + dottedCapitals a.email :=
    Text.length_lower a.email
  refine ⟨d, hentry, hgiven, by omega, hlength, Text.lower_lower a.email, ?_,
    isKey_normalizedEmail_iff hleast⟩
  rintro s rfl
  exact (strip_normalizedEmail_iff a).mpr hgiven.trimmed

/-! ### Dotted capitals -/

/-- The values of an assertion that names nothing but an email. -/
def withEmail (d : Datum) : List (Text × Datum) :=
  [(Text.ofString "email", d), (Text.ofString "auth_provider", .str "oidc")]

/-- An email within bounds is accepted. -/
theorem ofEntries_withEmail (hleast : 1 ≤ (strip s).length) (hmost : (strip s).length ≤ maxEmail) :
    ofEntries (withEmail (.str s)) = .ok ⟨strip s, none, none, none, [], .oidc⟩ := by
  refine ofEntries_eq_ok.mpr ⟨?_, rfl, rfl, rfl, rfl, rfl⟩
  have hstring : Field.string (.str (strip s)) = .ok (strip s) := by
    simp [Datum.str, Field.string]
  rw [withEmail, Field.read_cons_self]
  refine Field.within_eq_ok.mpr ?_
  simp only [Function.comp_apply, stripped, Datum.str, Text.toString?_ofString, bounded]
    at hstring ⊢
  rw [hstring]
  simp only [bind, Except.bind]
  -- The two bounds are checked one after the other.
  rw [if_neg (by omega), if_neg (by omega)]
  rfl

/-- One dotted capital makes the key one character longer. -/
theorem normalizedEmail_outcome_izmir :
    ofEntries (withEmail (.str " İzmir@example.org\n")) =
        .ok ⟨"İzmir@example.org", none, none, none, [], .oidc⟩ ∧
      lower "İzmir@example.org" = "i\u0307zmir@example.org" ∧
      IsKey (lower "İzmir@example.org") := by
  have haccepted : ofEntries (withEmail (.str " İzmir@example.org\n")) =
      .ok ⟨"İzmir@example.org", none, none, none, [], .oidc⟩ := by
    decide +kernel
  obtain ⟨_, -, -, -, -, -, -, hkey⟩ := normalizedEmail_outcome haccepted
  exact ⟨haccepted, by decide +kernel, hkey.mpr ⟨by decide +kernel, by decide +kernel⟩⟩

/-- The email of 128 dotted capitals is accepted, and its key has 256 characters, one more than the
column has room for. -/
theorem accepted_without_room :
    ∃ a, ofEntries (withEmail (.str (String.ofList (List.replicate 128 'İ')))) = .ok a ∧
      a.normalizedEmail.length = 256 ∧ ¬IsKey a.normalizedEmail := by
  have hstrip : strip (String.ofList (List.replicate 128 'İ')) =
      String.ofList (List.replicate 128 'İ') := by
    refine Text.strip_eq_self_iff.mpr ?_
    have hcapital : ∀ c ∈ List.replicate 128 'İ', Text.isSpacing c = false := fun c hc => by
      rw [List.eq_of_mem_replicate hc]
      decide
    rw [String.toList_ofList]
    exact ⟨fun c hc => hcapital c (List.mem_of_mem_head? hc),
      fun c hc => hcapital c (List.mem_of_getLast? hc)⟩
  have hlength : (String.ofList (List.replicate 128 'İ')).length = 128 := by
    rw [String.length_ofList, List.length_replicate]
  have hlower : (lower (String.ofList (List.replicate 128 'İ'))).length = 256 := by
    rw [Text.length_lower, hlength, dottedCapitals, String.toList_ofList,
      List.count_replicate_self]
  have haccepted := ofEntries_withEmail (s := String.ofList (List.replicate 128 'İ'))
    (by rw [hstrip, hlength]; decide) (by rw [hstrip, hlength]; decide)
  rw [hstrip] at haccepted
  refine ⟨_, haccepted, hlower, fun h => ?_⟩
  have hroom := fits_iff.mp h.fits
  rw [normalizedEmail, hlower] at hroom
  exact absurd hroom (by decide)

/-- The blank in front of an email in bytes stays in front of its key. -/
theorem accepted_with_spacing :
    ∃ a, ofEntries (withEmail (.bytes " ada@example.org".toUTF8.toList)) = .ok a ∧
      a.normalizedEmail = " ada@example.org" ∧ ¬IsKey a.normalizedEmail := by
  have haccepted : ofEntries (withEmail (.bytes " ada@example.org".toUTF8.toList)) =
      .ok ⟨" ada@example.org", none, none, none, [], .oidc⟩ := by
    decide +kernel
  exact ⟨_, haccepted, by decide +kernel, fun h => absurd h.trimmed (by decide +kernel)⟩

end FederatedLogin.Assertion
