import FederatedLogin.Proofs.Crypto.Sha2
import FederatedLogin.Proofs.Results
import FederatedLogin.Proofs.Text.Base64
import FederatedLogin.Proofs.Text.Utf8
import FederatedLogin.Token

/-!
# What an accepted token has

A token is cut at its dots, of which it has two (`parts?_eq_some_iff`). It is accepted exactly if it
is `Authentic`, that is if its header is in order and its signature is that of the header and
the claims, and if its claims are `InOrder` at the time (`read_eq_ok_iff`).

Conversely, header and claims make an authentic token when they are signed with the configured key
and algorithm (`authentic_of_signed`).
-/

namespace FederatedLogin

theorem Datum.toString?_eq_some {d : Datum} {s : String} : d.toString? = some s ↔ d = .str s := by
  cases d with
  | text t =>
    rw [Datum.toString?, Text.toString?_eq_some, Datum.str, Datum.text.injEq]
  | null | bool | int | float | bytes | list | record => simp [Datum.toString?, Datum.str]

namespace Token

variable {s : Settings} {now : Int} {token : String} {claims : List (Text × Datum)}
  {a : Algorithm}

/-! ### Cutting a token -/

/-- Segments without dots are found again in the text that they are joined to. -/
theorem splitOn_join {header claims signature : List Char} (hheader : '.' ∉ header)
    (hclaims : '.' ∉ claims) (hsignature : '.' ∉ signature) :
    (header ++ '.' :: claims ++ '.' :: signature).splitOn '.' = [header, claims, signature] := by
  rw [List.append_assoc, List.cons_append, List.splitOn_append_cons_self_of_not_mem hheader,
    List.splitOn_append_cons_self_of_not_mem hclaims, List.splitOn_eq_singleton hsignature]

/-- A token can be taken apart exactly if it has three segments and each of them stands for
bytes. -/
theorem parts?_eq_some_iff {parts : Parts} :
    parts? token = some parts ↔ ∃ header claims signature,
      token.toList.splitOn '.' = [header, claims, signature] ∧
      parts.signed = header ++ '.' :: claims ∧ decoded? header = some parts.header ∧
      decoded? claims = some parts.claims ∧ decoded? signature = some parts.signature := by
  rw [parts?]
  constructor
  · intro h
    split at h
    · rename_i header claims signature hcut
      obtain ⟨hbytes, hheader, h⟩ := Option.bind_eq_some_iff.mp h
      obtain ⟨cbytes, hclaims, h⟩ := Option.bind_eq_some_iff.mp h
      obtain ⟨sbytes, hsignature, h⟩ := Option.bind_eq_some_iff.mp h
      obtain rfl := Option.some.inj h
      exact ⟨header, claims, signature, hcut, rfl, hheader, hclaims, hsignature⟩
    · exact absurd h nofun
  · rintro ⟨header, claims, signature, hcut, hsigned, hheader, hclaims, hsignature⟩
    obtain ⟨signed, hbytes, cbytes, sbytes⟩ := parts
    obtain rfl := hsigned
    simp [hcut, hheader, hclaims, hsignature]

/-! ### The claims -/

/-- The claims of a token are in order at a time. -/
structure InOrder (now : Int) (claims : List (Text × Datum)) : Prop where
  subject : ∃ t, field? claims "sub" = some (.text t)
  issuer : field? claims "iss" = some (.str issuer)
  expires : ∃ d n, field? claims "exp" = some d ∧ second d = .ok n ∧ now < n
  issued : ∀ d, field? claims "iat" = some d → ∃ n, second d = .ok n ∧ n ≤ now
  usable : ∀ d, field? claims "nbf" = some d → ∃ n, second d = .ok n ∧ n ≤ now
  audience : ∀ d, field? claims "aud" = some d → d.truthy = false
  identifier : textOrAbsent claims "jti" = true

theorem require_eq_ok_iff {ok : Bool} {u : Unit} : require ok = .ok u ↔ ok = true := by
  cases ok <;> simp [require, invalid]

theorem orInvalid_eq_ok_iff {α : Type} {x : Option α} {y : α} :
    orInvalid x = .ok y ↔ x = some y := by
  cases x <;> simp [orInvalid, invalid]

/-- A claim that is null counts as missing. -/
theorem present_eq_true_iff {name : String} :
    present claims name = true ↔ ∃ d, field? claims name = some d ∧ d ≠ .null := by
  rw [present]
  rcases field? claims name with _ | d
  · simp
  · cases d <;> simp

/-- A time that must not be in the future. -/
theorem past_eq_ok_iff {name : String} :
    (∃ n?, second? claims name = .ok n? ∧ n?.all (· ≤ now) = true) ↔
      ∀ d, field? claims name = some d → ∃ n, second d = .ok n ∧ n ≤ now := by
  rw [second?]
  rcases field? claims name with _ | d
  · simp
  · rcases hsecond : second d with e | n
    · simp [hsecond, Except.map]
    · simp [hsecond, Except.map]

/-- A field is a certain string. -/
theorem fieldText_eq_true_iff {es : List (Text × Datum)} {name text : String} :
    ((field? es name).bind Datum.toString? == some text) = true ↔
      field? es name = some (.str text) := by
  rw [beq_iff_eq, Option.bind_eq_some_iff]
  constructor
  · rintro ⟨d, hfield, htext⟩
    rw [hfield, Datum.toString?_eq_some.mp htext]
  · intro hfield
    exact ⟨_, hfield, Text.toString?_ofString text⟩

/-- A claim that may be missing is a text where it is given; null does not count as missing. -/
theorem textOrAbsent_eq_true_iff {name : String} :
    textOrAbsent claims name = true ↔
      field? claims name = none ∨ ∃ t, field? claims name = some (.text t) := by
  rw [textOrAbsent]
  split <;> simp_all

/-- No audience is named. -/
theorem unaddressed_eq_true_iff :
    (!(field? claims "aud").any Datum.truthy) = true ↔
      ∀ d, field? claims "aud" = some d → d.truthy = false := by
  rcases field? claims "aud" with _ | d <;> simp

/-- The fields that must be there are there. -/
theorem required_eq_true_iff :
    ["sub", "exp", "iss"].all (present claims) = true ↔
      ∃ sub exp iss, (field? claims "sub" = some sub ∧ sub ≠ .null) ∧
        (field? claims "exp" = some exp ∧ exp ≠ .null) ∧
        (field? claims "iss" = some iss ∧ iss ≠ .null) := by
  simp only [List.all_cons, List.all_nil, Bool.and_true, Bool.and_eq_true, present_eq_true_iff]
  constructor
  · rintro ⟨⟨sub, hsub⟩, ⟨exp, hexp⟩, ⟨iss, hiss⟩⟩
    exact ⟨sub, exp, iss, hsub, hexp, hiss⟩
  · rintro ⟨sub, exp, iss, hsub, hexp, hiss⟩
    exact ⟨⟨sub, hsub⟩, ⟨exp, hexp⟩, ⟨iss, hiss⟩⟩

/-- The claims pass the checks exactly when they are in order. -/
theorem checkClaims_eq_ok_iff {u : Unit} : checkClaims now claims = .ok u ↔ InOrder now claims := by
  constructor
  · intro h
    obtain ⟨_, hrequired, h⟩ := bind_eq_ok.mp h
    obtain ⟨iat, hiat, h⟩ := bind_eq_ok.mp h
    obtain ⟨_, hissued, h⟩ := bind_eq_ok.mp h
    obtain ⟨nbf, hnbf, h⟩ := bind_eq_ok.mp h
    obtain ⟨_, husable, h⟩ := bind_eq_ok.mp h
    obtain ⟨exp, hexp, h⟩ := bind_eq_ok.mp h
    obtain ⟨sub, d, iss, ⟨hsub, hsubject⟩, ⟨hd, -⟩, -⟩ :=
      required_eq_true_iff.mp (require_eq_ok_iff.mp hrequired)
    rw [second?, hd] at hexp
    obtain ⟨n, hn, rfl⟩ := map_eq_ok.mp hexp
    dsimp only at h
    split at h
    · exact absurd h nofun
    rename_i hlate
    obtain ⟨_, hissuer, h⟩ := bind_eq_ok.mp h
    obtain ⟨_, haudience, h⟩ := bind_eq_ok.mp h
    have htexts := Bool.and_eq_true_iff.mp (require_eq_ok_iff.mp h)
    rw [require_eq_ok_iff] at hissued husable hissuer haudience
    refine ⟨?_, fieldText_eq_true_iff.mp hissuer, ⟨d, n, hd, hn, ?_⟩,
      past_eq_ok_iff.mp ⟨iat, hiat, hissued⟩, past_eq_ok_iff.mp ⟨nbf, hnbf, husable⟩,
      unaddressed_eq_true_iff.mp haudience, htexts.2⟩
    · rcases textOrAbsent_eq_true_iff.mp htexts.1 with habsent | htext
      · rw [habsent] at hsub
        exact absurd hsub nofun
      · exact htext
    · simpa using hlate
  · intro h
    obtain ⟨sub, hsub⟩ := h.subject
    obtain ⟨d, n, hd, hn, hlt⟩ := h.expires
    obtain ⟨iat, hiat, hissued⟩ := past_eq_ok_iff.mpr h.issued
    obtain ⟨nbf, hnbf, husable⟩ := past_eq_ok_iff.mpr h.usable
    have hnull : d ≠ .null := by
      rintro rfl
      exact absurd hn nofun
    have hrequired : ["sub", "exp", "iss"].all (present claims) = true :=
      required_eq_true_iff.mpr ⟨_, d, _, ⟨hsub, nofun⟩, ⟨hd, hnull⟩, ⟨h.issuer, nofun⟩⟩
    have hexp : second? claims "exp" = .ok (some n) := by
      rw [second?, hd]
      exact map_eq_ok.mpr ⟨n, hn, rfl⟩
    refine bind_eq_ok.mpr ⟨(), require_eq_ok_iff.mpr hrequired, ?_⟩
    refine bind_eq_ok.mpr ⟨iat, hiat, bind_eq_ok.mpr ⟨(), require_eq_ok_iff.mpr hissued, ?_⟩⟩
    refine bind_eq_ok.mpr ⟨nbf, hnbf, bind_eq_ok.mpr ⟨(), require_eq_ok_iff.mpr husable, ?_⟩⟩
    refine bind_eq_ok.mpr ⟨some n, hexp, ?_⟩
    dsimp only
    rw [if_neg (by simpa using hlt)]
    refine bind_eq_ok.mpr ⟨(), require_eq_ok_iff.mpr (fieldText_eq_true_iff.mpr h.issuer), ?_⟩
    refine bind_eq_ok.mpr ⟨(), require_eq_ok_iff.mpr (unaddressed_eq_true_iff.mpr h.audience), ?_⟩
    refine require_eq_ok_iff.mpr (Bool.and_eq_true_iff.mpr ⟨?_, h.identifier⟩)
    exact textOrAbsent_eq_true_iff.mpr (.inr ⟨sub, hsub⟩)

/-! ### The whole token -/

/-- The header of a token is in order, it names the configured algorithm, and the token has the
signature that this algorithm makes with the configured key. -/
inductive Authentic (s : Settings) (token : String) : List (Text × Datum) → Prop
  | mk {parts : Parts} {header claims : List (Text × Datum)} {a : Algorithm} {key : List UInt8}
      (cut : parts? token = some parts) (headed : entries parts.header = .ok header)
      (acceptable : acceptableHeader header = true)
      (named : field? header "alg" = some (.str s.jwtAlgorithm))
      (algorithm : Algorithm.ofName? s.jwtAlgorithm = some a)
      (keyed : a.key s.jwtSecretKey = .ok key)
      (signed : a.verify key (String.ofList parts.signed).toUTF8.toList parts.signature = true)
      (claimed : entries parts.claims = .ok claims) : Authentic s token claims

/-- An algorithm is known by its own name only. -/
theorem name_of_ofName? {name : String} (h : Algorithm.ofName? name = some a) : a.name = name := by
  have hname := List.find?_some h
  exact beq_iff_eq.mp hname

/-- Of an authentic token only the claims are looked at. -/
theorem read_of_authentic (h : Authentic s token claims) (now : Int) :
    read s now token = (checkClaims now claims).map fun _ => claims := by
  obtain ⟨cut, headed, acceptable, named, algorithm, keyed, signed, claimed⟩ := h
  rename_i a key
  have hname : s.jwtAlgorithm.isEmpty = false := by
    rw [← name_of_ofName? algorithm]
    cases a <;> rfl
  have hnamed := fieldText_eq_true_iff.mpr named
  rw [read, cut, algorithm]
  simp only [orInvalid, bind, Except.bind, headed, acceptable, hnamed, hname, keyed, signed,
    claimed, require, mapError_ok, Bool.not_false, Bool.and_self, if_true]
  rcases checkClaims now claims with e | u <;> rfl

/-- A token is accepted exactly if it is authentic and its claims are in order. -/
theorem read_eq_ok_iff :
    read s now token = .ok claims ↔ Authentic s token claims ∧ InOrder now claims := by
  constructor
  · intro h
    obtain ⟨parts, hparts, h⟩ := bind_eq_ok.mp h
    obtain ⟨header, hheader, h⟩ := bind_eq_ok.mp h
    obtain ⟨_, hacceptable, h⟩ := bind_eq_ok.mp h
    obtain ⟨_, hnamed, h⟩ := bind_eq_ok.mp h
    obtain ⟨a, halgorithm, h⟩ := bind_eq_ok.mp h
    obtain ⟨key, hkey, h⟩ := bind_eq_ok.mp h
    obtain ⟨_, hsigned, h⟩ := bind_eq_ok.mp h
    obtain ⟨claims', hclaims, h⟩ := bind_eq_ok.mp h
    obtain ⟨_, hcheck, h⟩ := bind_eq_ok.mp h
    obtain rfl := Except.ok.inj h
    rw [orInvalid_eq_ok_iff] at hparts halgorithm
    rw [require_eq_ok_iff] at hacceptable hnamed hsigned
    have hfield := fieldText_eq_true_iff.mp (Bool.and_eq_true_iff.mp hnamed).1
    have hauthentic : Authentic s token claims' :=
      .mk hparts hheader hacceptable hfield halgorithm (mapError_eq_ok.mp hkey) hsigned hclaims
    exact ⟨hauthentic, checkClaims_eq_ok_iff.mp hcheck⟩
  · rintro ⟨hauthentic, horder⟩
    rw [read_of_authentic hauthentic, checkClaims_eq_ok_iff (u := ()).mpr horder]
    rfl

/-! ### Making an authentic token -/

/-- A segment of a token stands for a JSON object. -/
def Encodes (segment : List Char) (fields : List (Text × Datum)) : Prop :=
  ∃ bytes, decoded? segment = some bytes ∧ entries bytes = .ok fields

/-- A signature is verified by making it again. -/
theorem verify_eq_true_iff {key message signature : List UInt8} :
    a.verify key message signature = true ↔ a ≠ .unsigned ∧ a.sign key message = signature := by
  rw [Algorithm.verify, Bool.and_eq_true_iff, decide_eq_true_iff, beq_iff_eq]

/-- The key of an algorithm that signs is the configured text. -/
theorem eq_of_key_eq_ok {secret : String} {key : List UInt8} (signs : a ≠ .unsigned)
    (h : a.key secret = .ok key) : key = secret.toUTF8.toList := by
  cases a with
  | unsigned => exact absurd rfl signs
  | keyed256 | keyed384 | keyed512 =>
    dsimp only [Algorithm.key] at h
    split at h
    · exact absurd h nofun
    · split at h
      · exact absurd h nofun
      · exact (Except.ok.inj h).symm

theorem toList_encoded (bytes : List UInt8) :
    (encoded bytes).toList = Text.Base64.encode Text.Base64.urlAlphabet bytes := by
  rw [encoded, String.toList_ofList]

theorem decoded?_encoded (bytes : List UInt8) : decoded? (encoded bytes).toList = some bytes := by
  rw [toList_encoded]
  exact Text.Base64.decodeLenient_encode bytes

/-- Encoding writes no dots, so the segments of a token can be told apart. -/
theorem dot_notMem_encoded (bytes : List UInt8) : '.' ∉ (encoded bytes).toList := by
  rw [toList_encoded]
  exact Text.Base64.dot_notMem_encode bytes

/-- A token ends with its signature. -/
theorem toList_signed (text : String) (signature : List UInt8) :
    (text ++ "." ++ encoded signature).toList =
      text.toList ++ '.' :: (encoded signature).toList := by
  rw [String.toList_append, String.toList_append, List.append_assoc]
  rfl

/-- A header and claims that are signed with the configured algorithm and key make an authentic
token, however their segments are written. -/
theorem authentic_of_signed {text : String} {header payload : List Char}
    {fields : List (Text × Datum)} {key : List UInt8}
    (cut : text.toList = header ++ '.' :: payload) (dots : '.' ∉ header ∧ '.' ∉ payload)
    (headed : Encodes header fields) (acceptable : acceptableHeader fields = true)
    (named : field? fields "alg" = some (.str s.jwtAlgorithm))
    (algorithm : Algorithm.ofName? s.jwtAlgorithm = some a) (signs : a ≠ .unsigned)
    (keyed : a.key s.jwtSecretKey = .ok key) (claimed : Encodes payload claims) :
    Authentic s (text ++ "." ++ encoded (a.sign key text.toUTF8.toList)) claims := by
  obtain ⟨hbytes, hheader, headed⟩ := headed
  obtain ⟨cbytes, hpayload, claimed⟩ := claimed
  have hparts : parts? (text ++ "." ++ encoded (a.sign key text.toUTF8.toList)) =
      some ⟨text.toList, hbytes, cbytes, a.sign key text.toUTF8.toList⟩ := by
    refine parts?_eq_some_iff.mpr ⟨header, payload, _, ?_, cut, hheader, hpayload,
      decoded?_encoded _⟩
    rw [toList_signed, cut]
    exact splitOn_join dots.1 dots.2 (dot_notMem_encoded _)
  refine .mk hparts headed acceptable named algorithm keyed ?_ claimed
  rw [String.ofList_toList]
  exact verify_eq_true_iff.mpr ⟨signs, rfl⟩

end Token

end FederatedLogin
