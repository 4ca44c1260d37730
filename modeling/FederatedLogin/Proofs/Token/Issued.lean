import FederatedLogin.Proofs.Json.RoundTrip
import FederatedLogin.Proofs.Token.Reading

/-!
# Issued tokens are read back

The header and the claims of an issued token are flat objects, so they are read back as they were
written, and the token is authentic for the settings that it was issued with (`authentic_of_issue`).
It gives back what it was issued for until it expires, to the second, and is refused as expired from
then on (`read_of_issue`).
-/

namespace FederatedLogin.Token

open Json (Plain fields compact)

variable {s : Settings} {now t : Int} {token : String} {a : Algorithm}

/-! ### Header and claims -/

/-- A flat object as it is written is read as its entries. -/
theorem entries_write {es : List (String × Datum)} (plain : ∀ e ∈ es, Plain e.2)
    (distinct : ((fields es).map (·.1)).Nodup) :
    entries (Json.write compact (.object es)).toUTF8.toList = .ok (fields es) := by
  rw [entries, Text.fromUTF8?_toUTF8]
  simp only [Json.readText_write_object plain distinct]
  rfl

/-- An object of plain values under different names is decoded from its written form. -/
theorem encodes_write {es : List (String × Datum)} (plain : ∀ e ∈ es, Plain e.2)
    (distinct : ((fields es).map (·.1)).Nodup) :
    Encodes (encoded (Json.write compact (.object es)).toUTF8.toList).toList (fields es) :=
  ⟨_, decoded?_encoded _, entries_write plain distinct⟩

theorem toList_signedPart (header claims : Datum) :
    (signedPart header claims).toList =
      (encoded (Json.write compact header).toUTF8.toList).toList ++
        '.' :: (encoded (Json.write compact claims).toUTF8.toList).toList := by
  rw [signedPart, String.toList_append, String.toList_append, List.append_assoc]
  rfl

/-- The header of every token. -/
def headerOf (a : Algorithm) : List (String × Datum) := [("alg", .str a.name), ("typ", .str "JWT")]

/-- The header that is written is accepted. -/
theorem acceptableHeader_headerOf (a : Algorithm) :
    acceptableHeader (fields (headerOf a)) = true := by
  simp [acceptableHeader, textOrAbsent, knowsCritical, field?, Datum.lookup, fields, headerOf,
    Text.ofString_inj]

theorem encodes_headerOf (a : Algorithm) :
    Encodes (encoded (Json.write compact (.object (headerOf a))).toUTF8.toList).toList
      (fields (headerOf a)) := by
  refine encodes_write ?_ ?_
  · intro e he
    simp only [headerOf, List.mem_cons, List.not_mem_nil, or_false] at he
    rcases he with rfl | rfl <;> exact .str _
  · simp [fields, headerOf, Text.ofString_inj]

theorem named_headerOf (algorithm : Algorithm.ofName? s.jwtAlgorithm = some a) :
    field? (fields (headerOf a)) "alg" = some (.str s.jwtAlgorithm) := by
  rw [← name_of_ofName? algorithm]
  simp [field?, Datum.lookup, fields, headerOf]

/-- The claims of an issued token. -/
def claimed (now expires : Int) (subject role provider : String) : List (String × Datum) :=
  [("sub", .str subject), ("role", .str role), ("provider", .str provider), ("iat", .int now),
    ("exp", .int expires), ("iss", .str issuer)]

/-- The claims are read back while their times are within the limit of digits. -/
theorem encodes_claimed {expires : Int} (hnow : now.natAbs < 10 ^ Json.maxDigits)
    (hexpires : expires.natAbs < 10 ^ Json.maxDigits) (subject role provider : String) :
    Encodes (encoded (Json.write compact
        (.object (claimed now expires subject role provider))).toUTF8.toList).toList
      (fields (claimed now expires subject role provider)) := by
  refine encodes_write ?_ ?_
  · intro e he
    simp only [claimed, List.mem_cons, List.not_mem_nil, or_false] at he
    rcases he with rfl | rfl | rfl | rfl | rfl | rfl
    · exact .str subject
    · exact .str role
    · exact .str provider
    · exact .int hnow
    · exact .int hexpires
    · exact .str issuer
  · simp [fields, claimed, Text.ofString_inj]

/-! ### Issued tokens -/

/-- A token that can be issued expires after the configured minutes, and none of its times has too
many digits. -/
theorem expiry_eq_ok {minutes expires : Int} (h : expiry now minutes = .ok expires) :
    expires = now + 60 * minutes ∧ now.natAbs < 10 ^ Json.maxDigits ∧
      expires.natAbs < 10 ^ Json.maxDigits := by
  have hpow : 10 ^ 15 ≤ 10 ^ Json.maxDigits := Nat.pow_le_pow_right (by decide) (by decide)
  rw [expiry, Int.fdiv_eq_ediv_of_nonneg _ (by decide)] at h
  dsimp only at h
  split at h
  · exact absurd h nofun
  · split at h
    · exact absurd h nofun
    · split at h
      · exact absurd h nofun
      · rename_i hdays hcalendar
        obtain rfl := Except.ok.inj h
        rw [firstSecond, lastSecond] at hcalendar
        refine ⟨rfl, Nat.lt_of_lt_of_le ?_ hpow, Nat.lt_of_lt_of_le ?_ hpow⟩ <;> omega

/-- Tokens can be issued at a time: they expire within the calendar, and the configured algorithm
signs with the configured key. -/
structure Issuable (s : Settings) (now : Int) : Prop where
  expires : ∃ t, expiry now s.jwtExpireMinutes = .ok t
  signs : ∃ a key, signer s.jwtAlgorithm = .ok a ∧ a.key s.jwtSecretKey = .ok key

/-- It does not depend on the user whether a token is issued. -/
theorem exists_issue_iff {subject role provider : Datum} :
    (∃ token, issue s now subject role provider = .ok token) ↔ Issuable s now := by
  constructor
  · rintro ⟨token, h⟩
    obtain ⟨expires, hexpiry, h⟩ := bind_eq_ok.mp h
    obtain ⟨a, hsigner, h⟩ := bind_eq_ok.mp h
    obtain ⟨key, hkey, -⟩ := bind_eq_ok.mp h
    exact ⟨⟨expires, hexpiry⟩, a, key, hsigner, mapError_eq_ok.mp hkey⟩
  · rintro ⟨⟨expires, hexpiry⟩, a, key, hsigner, hkey⟩
    have hkey' := (mapError_eq_ok (f := IssueError.key)).mpr hkey
    exact ⟨_, bind_eq_ok.mpr ⟨_, hexpiry, bind_eq_ok.mpr ⟨_, hsigner,
      bind_eq_ok.mpr ⟨_, hkey', rfl⟩⟩⟩⟩

/-- What an issued token is made of. -/
theorem issue_eq_ok {subject role provider : String}
    (h : issue s now (.str subject) (.str role) (.str provider) = .ok token) :
    ∃ a key expires, Algorithm.ofName? s.jwtAlgorithm = some a ∧ a.key s.jwtSecretKey = .ok key ∧
      expiry now s.jwtExpireMinutes = .ok expires ∧
      token = make a key (.object (headerOf a))
        (.object (claimed now expires subject role provider)) := by
  obtain ⟨expires, hexpiry, h⟩ := bind_eq_ok.mp h
  obtain ⟨a, hsigner, h⟩ := bind_eq_ok.mp h
  obtain ⟨key, hkey, h⟩ := bind_eq_ok.mp h
  refine ⟨a, key, expires, ?_, mapError_eq_ok.mp hkey, hexpiry, (Except.ok.inj h).symm⟩
  rw [signer] at hsigner
  split at hsigner
  · rename_i a' ha
    rw [ha, Except.ok.inj hsigner]
  · exact absurd hsigner nofun

/-- The key in settings that are left as they are. -/
theorem key_default :
    Algorithm.keyed256.key "change-me-jwt-secret" = .ok "change-me-jwt-secret".toUTF8.toList := by
  have hshape : isOfKeyPair "change-me-jwt-secret".toList = false := by decide +kernel
  dsimp only [Algorithm.key]
  rw [hshape, if_neg Bool.false_ne_true, if_neg (by decide)]

/-- Every claim is found under its name. -/
theorem field?_claimed (now expires : Int) (subject role provider : String) :
    let claims := fields (claimed now expires subject role provider)
    field? claims "sub" = some (.str subject) ∧ field? claims "role" = some (.str role) ∧
      field? claims "provider" = some (.str provider) ∧ field? claims "iat" = some (.int now) ∧
      field? claims "exp" = some (.int expires) ∧ field? claims "iss" = some (.str issuer) ∧
      field? claims "nbf" = none ∧ field? claims "aud" = none ∧ field? claims "jti" = none := by
  simp [field?, Datum.lookup, fields, claimed, Text.ofString_inj]

/-- An issued token is authentic, with the claims that it was issued for. -/
theorem authentic_of_issue {subject role provider : String}
    (signs : Algorithm.ofName? s.jwtAlgorithm ≠ some .unsigned)
    (h : issue s now (.str subject) (.str role) (.str provider) = .ok token) :
    Authentic s token
      (fields (claimed now (now + 60 * s.jwtExpireMinutes) subject role provider)) := by
  obtain ⟨a, key, expires, algorithm, keyed, hexpiry, rfl⟩ := issue_eq_ok h
  obtain ⟨rfl, hnow, hexpires⟩ := expiry_eq_ok hexpiry
  exact authentic_of_signed (toList_signedPart _ _)
    ⟨dot_notMem_encoded _, dot_notMem_encoded _⟩ (encodes_headerOf a) (acceptableHeader_headerOf a) (named_headerOf algorithm) algorithm
    (fun ha => signs (ha ▸ algorithm)) keyed (encodes_claimed hnow hexpires subject role provider)

/-- The claims of an issued token are in order from the time on when it was issued, until it
expires. -/
theorem inOrder_claimed {expires : Int} {subject role provider : String} (hnow : now ≤ t)
    (hexpires : t < expires) : InOrder t (fields (claimed now expires subject role provider)) := by
  obtain ⟨hsub, -, -, hiat, hexp, hiss, hnbf, haud, hjti⟩ :=
    field?_claimed now expires subject role provider
  refine ⟨⟨_, hsub⟩, hiss, ⟨_, expires, hexp, rfl, hexpires⟩, ?_, ?_, ?_,
    textOrAbsent_eq_true_iff.mpr (.inl hjti)⟩
  · intro d hd
    obtain rfl := Option.some.inj (hiat.symm.trans hd)
    exact ⟨now, rfl, hnow⟩
  · intro d hd
    exact absurd (hnbf.symm.trans hd) nofun
  · intro d hd
    exact absurd (haud.symm.trans hd) nofun

/-- Later they have expired. -/
theorem checkClaims_claimed {expires : Int} {subject role provider : String} (hnow : now ≤ t)
    (hexpires : expires ≤ t) :
    checkClaims t (fields (claimed now expires subject role provider)) =
      .error (.rejected .expired) := by
  obtain ⟨hsub, -, -, hiat, hexp, hiss, hnbf, -, -⟩ :=
    field?_claimed now expires subject role provider
  have hrequired : ["sub", "exp", "iss"].all
      (present (fields (claimed now expires subject role provider))) = true :=
    required_eq_true_iff.mpr ⟨_, _, _, ⟨hsub, nofun⟩, ⟨hexp, nofun⟩, ⟨hiss, nofun⟩⟩
  rw [checkClaims, hrequired, second?, second?, second?, hiat, hexp, hnbf]
  simp [require, second, Except.map, bind, Except.bind, hnow, hexpires]

/-- An issued token gives back what it was issued for until it expires, and is expired from then
on. -/
theorem read_of_issue {subject role provider : String}
    (signs : Algorithm.ofName? s.jwtAlgorithm ≠ some .unsigned)
    (h : issue s now (.str subject) (.str role) (.str provider) = .ok token) (hnow : now ≤ t) :
    (t < now + 60 * s.jwtExpireMinutes →
        ∃ claims, read s t token = .ok claims ∧ field? claims "sub" = some (.str subject) ∧
          field? claims "role" = some (.str role) ∧
          field? claims "provider" = some (.str provider)) ∧
      (now + 60 * s.jwtExpireMinutes ≤ t → read s t token = .error (.rejected .expired)) := by
  have hauthentic := authentic_of_issue signs h
  obtain ⟨hsub, hrole, hprovider, -⟩ :=
    field?_claimed now (now + 60 * s.jwtExpireMinutes) subject role provider
  refine ⟨fun hvalid => ?_, fun hexpired => ?_⟩
  · have horder : InOrder t
        (fields (claimed now (now + 60 * s.jwtExpireMinutes) subject role provider)) :=
      inOrder_claimed hnow hvalid
    exact ⟨_, read_eq_ok_iff.mpr ⟨hauthentic, horder⟩, hsub, hrole, hprovider⟩
  · rw [read_of_authentic hauthentic, checkClaims_claimed hnow hexpired]
    rfl

end FederatedLogin.Token
