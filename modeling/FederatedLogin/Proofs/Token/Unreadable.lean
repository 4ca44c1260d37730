import FederatedLogin.Proofs.Token.Issued

/-!
# Tokens that cannot be read

A token is accepted or rejected, unless it is `Unreadable`: its header is in order and names the
configured algorithm, and this algorithm cannot use the configured key. The key is prepared only
then, so no other token is (`read_eq_key_iff`). Every step in the reading of a token but this one
can only find the token invalid or expired, which is said of each step first.

The key of an algorithm that signs cannot be used if it is empty or of the form of a key pair
(`key_eq_error_iff`). A token that was issued under the same settings is never unreadable
(`read_issued`): at all times it gives back its subject, or it is rejected.
-/

namespace FederatedLogin.Token

open Json (fields compact)

variable {s : Settings} {now t : Int} {token : String} {claims : List (Text × Datum)}
  {a : Algorithm} {flaw : KeyFlaw} {e : ReadError}

/-! ### The errors of the steps -/

theorem invalid_eq_error {α : Type} (h : (invalid : Except ReadError α) = .error e) :
    e = .rejected .invalid :=
  (Except.error.inj h).symm

theorem orInvalid_eq_error {α : Type} {x : Option α} (h : orInvalid x = .error e) :
    e = .rejected .invalid := by
  cases x with
  | some => exact absurd h nofun
  | none => exact invalid_eq_error h

theorem require_eq_error {ok : Bool} (h : require ok = .error e) : e = .rejected .invalid := by
  cases ok with
  | true => exact absurd h nofun
  | false => exact invalid_eq_error h

/-- A segment that stands for no object is invalid, whatever is wrong with it. -/
theorem entries_eq_error {bytes : List UInt8} (h : entries bytes = .error e) :
    e = .rejected .invalid := by
  rw [entries] at h
  split at h
  · exact invalid_eq_error h
  · split at h
    · cases h
    · exact invalid_eq_error h

/-- A claim that names no second is invalid, whatever it is. -/
theorem second_eq_error {d : Datum} (h : second d = .error e) : e = .rejected .invalid := by
  cases d with
  | null | bytes | list | record => exact invalid_eq_error h
  | bool | int => exact absurd h nofun
  | text | float => exact orInvalid_eq_error h

/-- A time that is no whole number of seconds is refused like any other flaw. -/
theorem second?_eq_error {name : String} (h : second? claims name = .error e) :
    e = .rejected .invalid := by
  rw [second?] at h
  split at h
  · cases h
  · exact second_eq_error (map_eq_error.mp h)

/-! ### Expired tokens -/

/-- The claims are all there and not before their time, but the token has expired. The issuer and
the audience are not looked at in that case. -/
structure Expired (now : Int) (claims : List (Text × Datum)) : Prop where
  required : ∀ name ∈ ["sub", "exp", "iss"], present claims name = true
  issued : ∀ d, field? claims "iat" = some d → ∃ n, second d = .ok n ∧ n ≤ now
  usable : ∀ d, field? claims "nbf" = some d → ∃ n, second d = .ok n ∧ n ≤ now
  expires : ∃ d n, field? claims "exp" = some d ∧ second d = .ok n ∧ n ≤ now

/-- A time that has come. -/
theorem late_eq_ok_iff {name : String} :
    (∃ n?, second? claims name = .ok n? ∧ n?.any (· ≤ now) = true) ↔
      ∃ d n, field? claims name = some d ∧ second d = .ok n ∧ n ≤ now := by
  rw [second?]
  rcases field? claims name with _ | d
  · simp
  · rcases hsecond : second d with e | n
    · simp [hsecond, Except.map]
    · simp [hsecond, Except.map]

/-- Expired claims that are in order otherwise are reported as expired. -/
theorem Expired.checkClaims_eq (h : Expired now claims) :
    checkClaims now claims = .error (.rejected .expired) := by
  obtain ⟨iat, hiat, hissued⟩ := past_eq_ok_iff.mpr h.issued
  obtain ⟨nbf, hnbf, husable⟩ := past_eq_ok_iff.mpr h.usable
  obtain ⟨expires, hexp, hlate⟩ := late_eq_ok_iff.mpr h.expires
  refine bind_eq_error.mpr (.inr ⟨(), require_eq_ok_iff.mpr (List.all_eq_true.mpr h.required), ?_⟩)
  refine bind_eq_error.mpr (.inr ⟨iat, hiat, ?_⟩)
  refine bind_eq_error.mpr (.inr ⟨(), require_eq_ok_iff.mpr hissued, ?_⟩)
  refine bind_eq_error.mpr (.inr ⟨nbf, hnbf, ?_⟩)
  refine bind_eq_error.mpr (.inr ⟨(), require_eq_ok_iff.mpr husable, ?_⟩)
  refine bind_eq_error.mpr (.inr ⟨expires, hexp, ?_⟩)
  dsimp only
  rw [if_pos hlate]
  rfl

/-- The check of claims finds them invalid or expired. -/
theorem checkClaims_eq_error (h : checkClaims now claims = .error e) :
    e = .rejected .invalid ∨ e = .rejected .expired ∧ Expired now claims := by
  rw [checkClaims] at h
  rcases bind_eq_error.mp h with hrequired | ⟨_, hrequired, h⟩
  · exact .inl (require_eq_error hrequired)
  rcases bind_eq_error.mp h with hiat | ⟨iat, hiat, h⟩
  · exact .inl (second?_eq_error hiat)
  rcases bind_eq_error.mp h with hissued | ⟨_, hissued, h⟩
  · exact .inl (require_eq_error hissued)
  rcases bind_eq_error.mp h with hnbf | ⟨nbf, hnbf, h⟩
  · exact .inl (second?_eq_error hnbf)
  rcases bind_eq_error.mp h with husable | ⟨_, husable, h⟩
  · exact .inl (require_eq_error husable)
  rcases bind_eq_error.mp h with hexp | ⟨expires, hexp, h⟩
  · exact .inl (second?_eq_error hexp)
  rw [require_eq_ok_iff] at hrequired hissued husable
  dsimp only at h
  split at h
  · rename_i hlate
    refine .inr ⟨(Except.error.inj h).symm, List.all_eq_true.mp hrequired,
      past_eq_ok_iff.mp ⟨iat, hiat, hissued⟩, past_eq_ok_iff.mp ⟨nbf, hnbf, husable⟩, ?_⟩
    exact late_eq_ok_iff.mp ⟨expires, hexp, hlate⟩
  rcases bind_eq_error.mp h with hissuer | ⟨_, -, h⟩
  · exact .inl (require_eq_error hissuer)
  rcases bind_eq_error.mp h with haudience | ⟨_, -, h⟩
  · exact .inl (require_eq_error haudience)
  · exact .inl (require_eq_error h)

/-! ### Unreadable tokens -/

/-- A token can be taken apart, and its header is in order and names the configured algorithm. -/
structure Headed (s : Settings) (token : String) (parts : Parts) (a : Algorithm) : Prop where
  cut : parts? token = some parts
  header : ∃ header, entries parts.header = .ok header ∧ acceptableHeader header = true ∧
    field? header "alg" = some (.str s.jwtAlgorithm)
  algorithm : Algorithm.ofName? s.jwtAlgorithm = some a

/-- A token would have its signature verified with a key that cannot be used. -/
def Unreadable (s : Settings) (token : String) (flaw : KeyFlaw) : Prop :=
  ∃ parts a, Headed s token parts a ∧ a.key s.jwtSecretKey = .error flaw

/-- What is left to do when the header is in order. -/
theorem Headed.read_eq {parts : Parts} (h : Headed s token parts a) (now : Int) :
    read s now token = (do
      let key ← (a.key s.jwtSecretKey).mapError .key
      require (a.verify key (String.ofList parts.signed).toUTF8.toList parts.signature)
      let claims ← entries parts.claims
      checkClaims now claims
      return claims) := by
  obtain ⟨cut, ⟨header, headed, acceptable, named⟩, algorithm⟩ := h
  have hname : s.jwtAlgorithm.isEmpty = false := by
    rw [← name_of_ofName? algorithm]
    cases a <;> rfl
  have hnamed := fieldText_eq_true_iff.mpr named
  rw [read, cut, algorithm]
  simp only [orInvalid, bind, Except.bind, headed, acceptable, hnamed, hname, require,
    Bool.not_false, Bool.and_self, if_true]

/-- An unreadable token fails to be read, at all times and whatever its signature is. -/
theorem Unreadable.read_eq (h : Unreadable s token flaw) (now : Int) :
    read s now token = .error (.key flaw) := by
  obtain ⟨parts, a, headed, flawed⟩ := h
  simp [headed.read_eq, flawed, bind, Except.bind]

/-- A token that is not accepted is invalid or unreadable, or it is authentic and the error is that
of its claims. -/
theorem error_of_read (h : read s now token = .error e) :
    e = .rejected .invalid ∨ (∃ flaw, e = .key flaw ∧ Unreadable s token flaw) ∨
      ∃ claims, Authentic s token claims ∧ checkClaims now claims = .error e := by
  rw [read] at h
  rcases bind_eq_error.mp h with hcut | ⟨parts, hcut, h⟩
  · exact .inl (orInvalid_eq_error hcut)
  rcases bind_eq_error.mp h with hheader | ⟨header, hheader, h⟩
  · exact .inl (entries_eq_error hheader)
  rcases bind_eq_error.mp h with hacceptable | ⟨_, hacceptable, h⟩
  · exact .inl (require_eq_error hacceptable)
  rcases bind_eq_error.mp h with hnamed | ⟨_, hnamed, h⟩
  · exact .inl (require_eq_error hnamed)
  rcases bind_eq_error.mp h with halgorithm | ⟨a, halgorithm, h⟩
  · exact .inl (orInvalid_eq_error halgorithm)
  rw [orInvalid_eq_ok_iff] at hcut halgorithm
  rw [require_eq_ok_iff] at hacceptable hnamed
  have hfield := fieldText_eq_true_iff.mp (Bool.and_eq_true_iff.mp hnamed).1
  rcases bind_eq_error.mp h with hkey | ⟨key, hkey, h⟩
  · obtain ⟨flaw, hflaw, rfl⟩ := mapError_eq_error.mp hkey
    exact .inr (.inl ⟨flaw, rfl, parts, a,
      ⟨hcut, ⟨header, hheader, hacceptable, hfield⟩, halgorithm⟩, hflaw⟩)
  rw [mapError_eq_ok] at hkey
  rcases bind_eq_error.mp h with hsigned | ⟨_, hsigned, h⟩
  · exact .inl (require_eq_error hsigned)
  rw [require_eq_ok_iff] at hsigned
  rcases bind_eq_error.mp h with hclaims | ⟨claims, hclaims, h⟩
  · exact .inl (entries_eq_error hclaims)
  rcases bind_eq_error.mp h with hcheck | ⟨_, -, h⟩
  · exact .inr (.inr ⟨claims,
      .mk hcut hheader hacceptable hfield halgorithm hkey hsigned hclaims, hcheck⟩)
  · cases h

/-- A token is neither accepted nor rejected exactly if it is unreadable. -/
theorem read_eq_key_iff : read s now token = .error (.key flaw) ↔ Unreadable s token flaw := by
  refine ⟨fun h => ?_, fun h => h.read_eq now⟩
  rcases error_of_read h with hinvalid | ⟨flaw', hflaw, hunreadable⟩ | ⟨claims, -, hcheck⟩
  · exact absurd hinvalid nofun
  · obtain rfl := ReadError.key.inj hflaw
    exact hunreadable
  · rcases checkClaims_eq_error hcheck with hinvalid | ⟨hexpired, -⟩
    · exact absurd hinvalid nofun
    · exact absurd hexpired nofun

/-- A token is refused as expired exactly if it is authentic and its claims have expired. -/
theorem read_eq_expired_iff :
    read s now token = .error (.rejected .expired) ↔
      ∃ claims, Authentic s token claims ∧ Expired now claims := by
  constructor
  · intro h
    rcases error_of_read h with hinvalid | ⟨flaw, hflaw, -⟩ | ⟨claims, authentic, hcheck⟩
    · exact absurd hinvalid nofun
    · exact absurd hflaw nofun
    · rcases checkClaims_eq_error hcheck with hinvalid | ⟨-, expired⟩
      · exact absurd hinvalid nofun
      · exact ⟨claims, authentic, expired⟩
  · rintro ⟨claims, authentic, expired⟩
    rw [read_of_authentic authentic, expired.checkClaims_eq]
    rfl

/-! ### Unusable keys -/

/-- An algorithm that signs can use any key but those of key pairs and the empty one. -/
theorem key_eq_error_iff {secret : String} (signs : a ≠ .unsigned) :
    a.key secret = .error flaw ↔
      isOfKeyPair secret.toList = true ∧ flaw = .ofKeyPair ∨ secret = "" ∧ flaw = .empty := by
  have hkey : a.key secret = if isOfKeyPair secret.toList then .error .ofKeyPair
      else if secret.isEmpty then .error .empty else .ok secret.toUTF8.toList := by
    cases a with
    | unsigned => exact absurd rfl signs
    | keyed256 | keyed384 | keyed512 => rfl
  rw [hkey]
  by_cases hpair : isOfKeyPair secret.toList = true
  · have hsecret : secret ≠ "" := by
      rintro rfl
      exact absurd hpair (by decide +kernel)
    rw [if_pos hpair, Except.error.injEq]
    exact ⟨fun h => .inl ⟨hpair, h.symm⟩,
      fun h => (h.resolve_right fun hempty => hsecret hempty.1).2.symm⟩
  rw [if_neg hpair]
  by_cases hsecret : secret = ""
  · rw [if_pos (String.isEmpty_iff.mpr hsecret), Except.error.injEq]
    exact ⟨fun h => .inr ⟨hsecret, h.symm⟩,
      fun h => (h.resolve_left fun hshape => hpair hshape.1).2.symm⟩
  · simp [hpair, hsecret]

/-! ### Tokens in the usual form -/

/-- A token that was made of a header and claims is taken apart into these. -/
theorem parts?_make (a : Algorithm) (key : List UInt8) (header claims : Datum) :
    parts? (make a key header claims) = some
      ⟨(signedPart header claims).toList, (Json.write compact header).toUTF8.toList,
        (Json.write compact claims).toUTF8.toList,
        a.sign key (signedPart header claims).toUTF8.toList⟩ := by
  refine parts?_eq_some_iff.mpr ⟨_, _, _, ?_, toList_signedPart header claims,
    decoded?_encoded _, decoded?_encoded _, decoded?_encoded _⟩
  rw [make, toList_signed, toList_signedPart]
  exact splitOn_join (dot_notMem_encoded _) (dot_notMem_encoded _) (dot_notMem_encoded _)

/-- The bytes of a segment that was made of them stand for what the segment stands for. -/
theorem Encodes.entries_eq {bytes : List UInt8} {es : List (Text × Datum)}
    (h : Encodes (encoded bytes).toList es) : entries bytes = .ok es := by
  obtain ⟨bytes', hdecoded, hentries⟩ := h
  obtain rfl := Option.some.inj ((decoded?_encoded bytes).symm.trans hdecoded)
  exact hentries

/-- A token in the usual form has a header that is in order, whoever signed it. -/
theorem headed_make (algorithm : Algorithm.ofName? s.jwtAlgorithm = some a) (key : List UInt8)
    (claims : Datum) : ∃ parts, Headed s (make a key (.object (headerOf a)) claims) parts a :=
  ⟨_, parts?_make a key _ claims, ⟨_, (encodes_headerOf a).entries_eq, acceptableHeader_headerOf a,
    named_headerOf algorithm⟩, algorithm⟩

/-- If the configured key cannot be used, then no token in the usual form can be read, whatever it
claims and whatever key it is signed with. -/
theorem unreadable_make (algorithm : Algorithm.ofName? s.jwtAlgorithm = some a)
    (flawed : a.key s.jwtSecretKey = .error flaw) (key : List UInt8) (claims : Datum) :
    Unreadable s (make a key (.object (headerOf a)) claims) flaw := by
  obtain ⟨parts, headed⟩ := headed_make algorithm key claims
  exact ⟨parts, a, headed, flawed⟩

/-- A token of someone who does not know the key. -/
def strangerToken : String :=
  make .keyed256 "x".toUTF8.toList (.object (headerOf .keyed256)) (.object [("sub", .str "u")])

/-- It cannot be read where the key was left empty. -/
theorem unreadable_strangerToken (algorithm : s.jwtAlgorithm = "HS256")
    (secret : s.jwtSecretKey = "") : Unreadable s strangerToken .empty := by
  have hname : Algorithm.ofName? s.jwtAlgorithm = some .keyed256 := by rw [algorithm]; rfl
  refine unreadable_make hname ?_ _ _
  exact (key_eq_error_iff (by decide)).mpr (.inr ⟨secret, rfl⟩)

/-- An issued token is read under the same settings with the subject that it was issued for, or it
is rejected, whatever the time is. -/
theorem read_issued {subject role provider : String}
    (h : issue s now (.str subject) (.str role) (.str provider) = .ok token) (t : Int) :
    (∃ claims, read s t token = .ok claims ∧ field? claims "sub" = some (.str subject)) ∨
      ∃ r, read s t token = .error (.rejected r) := by
  obtain ⟨a, key, expires, algorithm, keyed, hexpiry, rfl⟩ := issue_eq_ok h
  obtain ⟨rfl, hnow, hexpires⟩ := expiry_eq_ok hexpiry
  have hclaims := (encodes_claimed hnow hexpires subject role provider).entries_eq
  rcases hread : read s t (make a key (.object (headerOf a))
    (.object (claimed now (now + 60 * s.jwtExpireMinutes) subject role provider))) with
    (r | flaw) | claims
  · exact .inr ⟨r, rfl⟩
  · -- The key that the token was issued with can be used.
    obtain ⟨parts, a', headed, flawed⟩ := read_eq_key_iff.mp hread
    obtain rfl := Option.some.inj (algorithm.symm.trans headed.algorithm)
    exact absurd (keyed.symm.trans flawed) nofun
  · obtain ⟨⟨cut, -, -, -, -, -, -, claimed⟩, -⟩ := read_eq_ok_iff.mp hread
    obtain rfl := Option.some.inj ((parts?_make a key _ _).symm.trans cut)
    obtain rfl := Except.ok.inj (hclaims.symm.trans claimed)
    exact .inl ⟨_, rfl, (field?_claimed now _ subject role provider).1⟩

end FederatedLogin.Token
