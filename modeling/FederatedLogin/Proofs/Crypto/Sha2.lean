import FederatedLogin.Token.Algorithm
import Mathlib.Data.List.Basic

/-!
# The length of a signature

A hash has a fixed number of bytes, whatever the message is: eight words are kept from block to
block (`length_words`), and the first bytes of them are the hash. So each signature algorithm writes
signatures of a length of its own (`length_sign`), and no two algorithms ever write the same one
(`sign_ne_sign`).
-/

namespace FederatedLogin.Crypto

namespace Sha2

variable {w : Nat}

theorem length_primes : primes.length = 80 := by decide +kernel

theorem length_start256 : start256.length = 8 := by
  rw [start256, List.length_map, List.length_take, length_primes]
  rfl

theorem length_start384 : start384.length = 8 := by
  rw [start384, List.length_map, List.length_take, List.length_drop, length_primes]
  rfl

theorem length_start512 : start512.length = 8 := by
  rw [start512, List.length_map, List.length_take, length_primes]
  rfl

@[simp]
theorem length_bytesOf (n count : Nat) : (bytesOf n count).length = count := by
  induction count with
  | zero => rfl
  | succ count ih => rw [bytesOf, List.length_cons, ih]

theorem length_absorb (s : Shape w) {state : List (BitVec w)} (h : state.length = 8)
    (block : List UInt8) : (absorb s state block).length = 8 := by
  rw [absorb, List.length_zipWith, h]
  rfl

/-- Eight words are kept from block to block. -/
theorem length_words (s : Shape w) {start : List (BitVec w)} (h : start.length = 8)
    (message : List UInt8) : (words s start message).length = 8 := by
  rw [words]
  generalize pieces (2 * w) _ (padded w message) = blocks
  induction blocks generalizing start with
  | nil => exact h
  | cons block blocks ih => exact ih (length_absorb s h block)

theorem length_digest (s : Shape w) {start : List (BitVec w)} (h : start.length = 8) {length : Nat}
    (hle : length ≤ 8 * (w / 8)) (message : List UInt8) :
    (digest s start length message).length = length := by
  have hbytes : ((words s start message).flatMap fun x => bytesOf x.toNat (w / 8)).length =
      8 * (w / 8) := by
    simp only [List.length_flatMap, length_bytesOf, List.map_const', List.sum_replicate_nat,
      length_words s h]
  rw [digest, List.length_take, hbytes, Nat.min_eq_left hle]

end Sha2

/-- A keyed hash has the length of a hash. -/
theorem length_keyed {hash : Hash} {length : Nat}
    (h : ∀ message, (hash.digest message).length = length) (key message : List UInt8) :
    (hash.keyed key message).length = length := h _

end FederatedLogin.Crypto

namespace FederatedLogin.Token.Algorithm

open Crypto

variable {a b : Algorithm}

/-- How many bytes a signature has. -/
def signatureLength : Algorithm → Nat
  | keyed256 => 32
  | keyed384 => 48
  | keyed512 => 64
  | unsigned => 0

theorem length_sign (a : Algorithm) (key message : List UInt8) :
    (a.sign key message).length = a.signatureLength := by
  cases a with
  | keyed256 =>
    exact length_keyed (Sha2.length_digest _ Sha2.length_start256 (by decide)) key message
  | keyed384 =>
    exact length_keyed (Sha2.length_digest _ Sha2.length_start384 (by decide)) key message
  | keyed512 =>
    exact length_keyed (Sha2.length_digest _ Sha2.length_start512 (by decide)) key message
  | unsigned => rfl

/-- Different algorithms never write the same signature, whatever the keys and the messages are. -/
theorem sign_ne_sign (h : a ≠ b) (key key' message message' : List UInt8) :
    a.sign key message ≠ b.sign key' message' := by
  intro hsign
  have hlength : a.signatureLength = b.signatureLength := by
    rw [← length_sign a key message, ← length_sign b key' message', hsign]
  revert h hlength
  cases a <;> cases b <;> decide

end FederatedLogin.Token.Algorithm
