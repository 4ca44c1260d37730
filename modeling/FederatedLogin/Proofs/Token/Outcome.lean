import FederatedLogin.Proofs.Token.Unreadable
import FederatedLogin.Service.Access

/-!
# What becomes of a token

A service accepts a token, refuses it with 401, or fails. It accepts the tokens that are authentic
and in order, calls those expired that are authentic and too late, and fails on those that are
unreadable; all others are invalid (`claims_of_token`). The refusals are answered in the same way,
but for their wording.

No token makes the service fail as long as the configured key can be used. If the key is empty or of
the form of a key pair, it fails on every token whose header names the configured algorithm.
-/

namespace FederatedLogin.Service.Access

open Token (Authentic InOrder Expired Headed Unreadable Algorithm)

variable {c : Context} {token : String}

theorem claims_eq_ok_iff {es : List (Text × Datum)} :
    claims c token = .ok es ↔ Token.read c.settings c.now token = .ok es := by
  rw [claims]
  split <;> simp_all

theorem claims_eq_refused_iff {r : Token.Rejection} :
    claims c token = .error (.refused (.badToken r)) ↔
      Token.read c.settings c.now token = .error (.rejected r) := by
  rw [claims]
  split <;> simp_all

/-- The service fails on a token exactly if it is unreadable, and then because of the key. -/
theorem claims_eq_failed_iff {e : Unhandled} :
    claims c token = .error (.failed e) ↔
      ∃ flaw, e = .tokenKey flaw ∧ Unreadable c.settings token flaw := by
  rw [claims]
  constructor
  · intro h
    split at h
    · exact absurd h nofun
    · exact absurd h nofun
    · rename_i flaw hread
      obtain rfl := Stop.failed.inj (Except.error.inj h)
      exact ⟨flaw, rfl, Token.read_eq_key_iff.mp hread⟩
  · rintro ⟨flaw, rfl, unreadable⟩
    rw [unreadable.read_eq]

/-- Where an algorithm that signs is configured, it depends on the key and on the header of a token
whether the service fails on it. -/
theorem exists_claims_eq_failed_iff {a : Algorithm}
    (algorithm : Algorithm.ofName? c.settings.jwtAlgorithm = some a) (signs : a ≠ .unsigned) :
    (∃ e, claims c token = .error (.failed e)) ↔
      (∃ parts, Headed c.settings token parts a) ∧
        (c.settings.jwtSecretKey = "" ∨
          Token.isOfKeyPair c.settings.jwtSecretKey.toList = true) := by
  constructor
  · rintro ⟨e, h⟩
    obtain ⟨flaw, -, parts, a', headed, flawed⟩ := claims_eq_failed_iff.mp h
    obtain rfl := Option.some.inj (headed.algorithm.symm.trans algorithm)
    refine ⟨⟨parts, headed⟩, ?_⟩
    exact ((Token.key_eq_error_iff signs).mp flawed).symm.imp And.left And.left
  · rintro ⟨⟨parts, headed⟩, hkey⟩
    obtain ⟨flaw, flawed⟩ : ∃ flaw, a.key c.settings.jwtSecretKey = .error flaw := by
      rcases hkey with hempty | hshape
      · exact ⟨_, (Token.key_eq_error_iff signs).mpr (.inr ⟨hempty, rfl⟩)⟩
      · exact ⟨_, (Token.key_eq_error_iff signs).mpr (.inl ⟨hshape, rfl⟩)⟩
    exact ⟨_, claims_eq_failed_iff.mpr ⟨flaw, rfl, parts, a, headed, flawed⟩⟩

/-- A token is accepted if it is authentic and its claims are in order, and it has expired if it is
authentic and too late. The service fails on it exactly if it is unreadable: under an algorithm that
signs, exactly if its header is in order and names this algorithm, and the configured key is empty
or of the form of a key pair. In every other case the token is refused with 401 and a challenge, and
the answer says that it has expired or that it is invalid. -/
theorem claims_of_token (c : Context) (token : String) :
    (∀ es, claims c token = .ok es ↔ Authentic c.settings token es ∧ InOrder c.now es) ∧
      (claims c token = .error (.refused (.badToken .expired)) ↔
        ∃ es, Authentic c.settings token es ∧ Expired c.now es) ∧
      (∀ e, claims c token = .error (.failed e) ↔
        ∃ flaw, e = .tokenKey flaw ∧ Unreadable c.settings token flaw) ∧
      (∀ a, Algorithm.ofName? c.settings.jwtAlgorithm = some a → a ≠ .unsigned →
        ((∃ e, claims c token = .error (.failed e)) ↔
          (∃ parts, Headed c.settings token parts a) ∧
            (c.settings.jwtSecretKey = "" ∨
              Token.isOfKeyPair c.settings.jwtSecretKey.toList = true))) ∧
      ((∃ es, claims c token = .ok es) ∨ (∃ e, claims c token = .error (.failed e)) ∨
        ∃ r, claims c token = .error (.refused (.badToken r)) ∧
          ∃ message ∈ ["Token expired", "Invalid token"],
            (Refusal.badToken r).response = Http.refusal 401 message Http.challenge) := by
  refine ⟨fun es => claims_eq_ok_iff.trans Token.read_eq_ok_iff,
    claims_eq_refused_iff.trans Token.read_eq_expired_iff, fun e => claims_eq_failed_iff,
    fun a algorithm signs => exists_claims_eq_failed_iff algorithm signs, ?_⟩
  rcases hread : Token.read c.settings c.now token with (r | flaw) | es
  · refine .inr (.inr ⟨r, claims_eq_refused_iff.mpr hread, r.message, ?_, rfl⟩)
    cases r <;> decide
  · exact .inr (.inl ⟨_, claims_eq_failed_iff.mpr ⟨flaw, rfl, Token.read_eq_key_iff.mp hread⟩⟩)
  · exact .inl ⟨es, claims_eq_ok_iff.mpr hread⟩

/-- With an empty key and the default algorithm, whose signatures are keyed hashes, the token of a
stranger is neither accepted nor refused. -/
theorem claims_of_empty_key :
    let s : Settings := { jwtSecretKey := "" }
    Algorithm.ofName? s.jwtAlgorithm = some .keyed256 ∧
      claims ⟨s, {}, 0, ⟨0⟩, []⟩ Token.strangerToken = .error (.failed (.tokenKey .empty)) := by
  intro s
  refine ⟨by decide, claims_eq_failed_iff.mpr ⟨_, rfl, ?_⟩⟩
  exact Token.unreadable_strangerToken rfl rfl

end FederatedLogin.Service.Access
