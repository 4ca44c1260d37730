import FederatedLogin.Proofs.Token.Issued

/-!
# What an accepted token shows

An accepted token has three segments. Its claims were signed with the configured key and algorithm,
and no token that another algorithm has signed is ever accepted (`read_sound`).
-/

namespace FederatedLogin.Token

open Json (fields)

variable {s : Settings} {now : Int} {token : String} {claims : List (Text × Datum)}

/-- What was signed last, with whatever algorithm and key, is the last segment of a token. -/
theorem eq_encoded_of_signed {text : String} {bytes : List UInt8}
    {header payload signature : List Char}
    (cut : token.toList.splitOn '.' = [header, payload, signature])
    (signed : token = text ++ "." ++ encoded bytes) : signature = (encoded bytes).toList := by
  rw [signed, toList_signed, List.splitOn_append_cons_self,
    List.splitOn_eq_singleton (dot_notMem_encoded bytes)] at cut
  have hlast : some (encoded bytes).toList = some signature := by
    rw [← List.getLast?_concat (l := text.toList.splitOn '.'), cut]
    rfl
  exact (Option.some.inj hlast).symm

/-- An accepted token has exactly three segments between its dots. The claims are what the middle
one stands for. Its header is an object that names the configured algorithm, and its last segment
stands for the signature that this algorithm makes with the configured key. The claims name the
issuer and a subject, they have not expired, and none of their times lies ahead. A token that any
algorithm has signed, with whatever key, is accepted only if this is the configured algorithm. -/
theorem read_sound (h : read s now token = .ok claims) :
    ∃ a header payload signature fields, Algorithm.ofName? s.jwtAlgorithm = some a ∧
      a ≠ .unsigned ∧ token.toList.splitOn '.' = [header, payload, signature] ∧
      Encodes header fields ∧ field? fields "alg" = some (.str s.jwtAlgorithm) ∧
      decoded? signature = some (a.sign s.jwtSecretKey.toUTF8.toList
        (String.ofList (header ++ '.' :: payload)).toUTF8.toList) ∧
      Encodes payload claims ∧ InOrder now claims ∧
      ∀ (b : Algorithm) (key : List UInt8) (text : String),
        token = text ++ "." ++ encoded (b.sign key text.toUTF8.toList) → b = a := by
  obtain ⟨hauthentic, horder⟩ := read_eq_ok_iff.mp h
  obtain ⟨cut, headed, -, named, algorithm, keyed, verified, claimed⟩ := hauthentic
  rename_i parts fields a key
  obtain ⟨header, payload, signature, hcut, hsigned, hheader, hpayload, hsignature⟩ :=
    parts?_eq_some_iff.mp cut
  obtain ⟨signs, hsign⟩ := verify_eq_true_iff.mp verified
  obtain rfl := eq_of_key_eq_ok signs keyed
  rw [← hsign, hsigned] at hsignature
  refine ⟨a, header, payload, signature, fields, algorithm, signs, hcut, ⟨_, hheader, headed⟩,
    named, hsignature, ⟨_, hpayload, claimed⟩, horder, ?_⟩
  -- The last segment stands for both signatures, and those of two algorithms differ in length.
  intro b key text htoken
  rw [eq_encoded_of_signed hcut htoken, decoded?_encoded] at hsignature
  by_contra hne
  exact Algorithm.sign_ne_sign hne _ _ _ _ (Option.some.inj hsignature)

/-! ### A token for a user -/

/-- The claims of a token for a user. -/
def adaClaims : List (String × Datum) := claimed 0 3600 "ada" "member" "local"

/-- The token that the default key and algorithm make of them. -/
def adaToken : String :=
  make .keyed256 "change-me-jwt-secret".toUTF8.toList (.object (headerOf .keyed256))
    (.object adaClaims)

/-- It is accepted before the hour is over. -/
theorem read_adaToken : read {} 0 adaToken = .ok (fields adaClaims) := by
  have halgorithm : Algorithm.ofName? ({} : Settings).jwtAlgorithm = some .keyed256 := rfl
  refine read_eq_ok_iff.mpr ⟨?_, inOrder_claimed (by decide) (by decide)⟩
  exact authentic_of_signed (toList_signedPart _ _)
    ⟨dot_notMem_encoded _, dot_notMem_encoded _⟩ (encodes_headerOf .keyed256)
    (acceptableHeader_headerOf .keyed256) (named_headerOf halgorithm) halgorithm (by decide)
    key_default (encodes_claimed (by decide +kernel) (by decide +kernel) "ada" "member" "local")

/-- What it shows. -/
theorem read_sound_adaToken :
    read {} 0 adaToken = .ok (fields adaClaims) ∧
      ∃ a header payload signature fs, Algorithm.ofName? ({} : Settings).jwtAlgorithm = some a ∧
        a ≠ .unsigned ∧ adaToken.toList.splitOn '.' = [header, payload, signature] ∧
        Encodes header fs ∧ field? fs "alg" = some (.str ({} : Settings).jwtAlgorithm) ∧
        decoded? signature = some (a.sign ({} : Settings).jwtSecretKey.toUTF8.toList
          (String.ofList (header ++ '.' :: payload)).toUTF8.toList) ∧
        Encodes payload (fields adaClaims) ∧ InOrder 0 (fields adaClaims) ∧
        ∀ (b : Algorithm) (key : List UInt8) (text : String),
          adaToken = text ++ "." ++ encoded (b.sign key text.toUTF8.toList) → b = a :=
  ⟨read_adaToken, read_sound read_adaToken⟩

end FederatedLogin.Token
