/-!
# The SHA-2 hash functions

SHA-256 works on words of 32 bits, SHA-384 and SHA-512 on words of 64 bits; apart from the width
they share one shape, given here once for words of any width. The constants are computed from their
definition: the first bits of the fractional parts of square and cube roots of primes.
-/

namespace FederatedLogin.Crypto

/-- A hash function with the length of the blocks that it consumes. -/
structure Hash where
  blockLength : Nat
  digest : List UInt8 → List UInt8

namespace Sha2

/-! ### Constants -/

/-- The greatest number below `2 ^ bits` whose `k`-th power is at most `n`. -/
def root (k n : Nat) : Nat → Nat → Nat
  | 0, r => r
  | bits + 1, r =>
    let next := r + Nat.pow 2 bits
    root k n bits (if Nat.pow next k ≤ n then next else r)

/-- The first `w` bits of the fractional part of the `k`-th root of `p`. -/
def rootFraction (w k p : Nat) : BitVec w :=
  BitVec.ofNat w (root k (p * Nat.pow 2 (k * w)) (w + 12) 0)

/-- The first eighty primes. -/
def primes : List Nat := (List.range 410).filter fun n =>
  2 ≤ n && (List.range n).all fun d => d < 2 || n % d ≠ 0

/-! ### The hash of a message -/

/-- What tells the hash functions of one word width apart from those of the other. -/
structure Shape (w : Nat) where
  /-- How many rounds a block takes. -/
  rounds : Nat
  /-- The three rotations of the two sums over the working variables. -/
  sumA : Nat × Nat × Nat
  sumE : Nat × Nat × Nat
  /-- The two rotations and the shift of the two functions of the message schedule. -/
  scheduleA : Nat × Nat × Nat
  scheduleB : Nat × Nat × Nat
  /-- One constant per round. -/
  constants : List (BitVec w)

variable {w : Nat}

/-- Three rotations, added bit by bit. -/
def rotations (r : Nat × Nat × Nat) (x : BitVec w) : BitVec w :=
  x.rotateRight r.1 ^^^ x.rotateRight r.2.1 ^^^ x.rotateRight r.2.2

/-- Two rotations and a shift, added bit by bit. -/
def rotationsAndShift (r : Nat × Nat × Nat) (x : BitVec w) : BitVec w :=
  x.rotateRight r.1 ^^^ x.rotateRight r.2.1 ^^^ x >>> r.2.2

/-- The eight working variables. -/
structure Variables (w : Nat) where
  a : BitVec w
  b : BitVec w
  c : BitVec w
  d : BitVec w
  e : BitVec w
  f : BitVec w
  g : BitVec w
  h : BitVec w

/-- Eight words as working variables. -/
def Variables.ofList (ws : List (BitVec w)) : Variables w :=
  let word (i : Nat) := ws.getD i 0
  ⟨word 0, word 1, word 2, word 3, word 4, word 5, word 6, word 7⟩

/-- The working variables as eight words. -/
def Variables.toList (v : Variables w) : List (BitVec w) := [v.a, v.b, v.c, v.d, v.e, v.f, v.g, v.h]

/-- One round, with its constant and its word of the schedule. -/
def round (s : Shape w) (v : Variables w) (k x : BitVec w) : Variables w :=
  let choice := (v.e &&& v.f) ^^^ (~~~v.e &&& v.g)
  let majority := (v.a &&& v.b) ^^^ (v.a &&& v.c) ^^^ (v.b &&& v.c)
  let t := v.h + rotations s.sumE v.e + choice + k + x
  ⟨t + rotations s.sumA v.a + majority, v.a, v.b, v.c, v.d + t, v.e, v.f, v.g⟩

/-- Run the rounds. The first of the sixteen words in `window` is the one for the next round; each
round adds one word of the schedule at its end. -/
def rounds (s : Shape w) : List (BitVec w) → List (BitVec w) → Variables w → Variables w
  | [], _, v => v
  | k :: ks, window, v =>
    let x := window.headD 0
    let next := rotationsAndShift s.scheduleB (window.getD 14 0) + window.getD 9 0 +
      rotationsAndShift s.scheduleA (window.getD 1 0) + x
    rounds s ks (window.drop 1 ++ [next]) (round s v k x)

/-- Bytes as one number, the first byte being the most significant. -/
def numberOf (bytes : List UInt8) : Nat := bytes.foldl (fun n b => n * 256 + b.toNat) 0

/-- A number as `count` bytes, the most significant first. -/
def bytesOf (n : Nat) : Nat → List UInt8
  | 0 => []
  | count + 1 => UInt8.ofNat (n / Nat.pow 256 count) :: bytesOf n count

/-- Cut a list into `count` pieces of one length. -/
def pieces {α : Type} (length : Nat) : Nat → List α → List (List α)
  | 0, _ => []
  | count + 1, l => l.take length :: pieces length count (l.drop length)

/-- A message with its padding: a one bit, zeros, and the length in bits, up to whole blocks. -/
def padded (w : Nat) (message : List UInt8) : List UInt8 :=
  let block := 2 * w
  let filled := (message.length + 1 + w / 4) % block
  message ++ 0x80 :: List.replicate ((block - filled) % block) 0 ++
    bytesOf (8 * message.length) (w / 4)

/-- Take in one block of the message. -/
def absorb (s : Shape w) (state : List (BitVec w)) (block : List UInt8) : List (BitVec w) :=
  let words := (pieces (w / 8) 16 block).map fun bs => BitVec.ofNat w (numberOf bs)
  let v := rounds s s.constants words (Variables.ofList state)
  List.zipWith (· + ·) state v.toList

/-- The words of the hash of a message. -/
def words (s : Shape w) (start : List (BitVec w)) (message : List UInt8) : List (BitVec w) :=
  let p := padded w message
  (pieces (2 * w) (p.length / (2 * w)) p).foldl (absorb s) start

/-- The hash of a message, cut to its first `length` bytes. -/
def digest (s : Shape w) (start : List (BitVec w)) (length : Nat) (message : List UInt8) :
    List UInt8 :=
  ((words s start message).flatMap fun x => bytesOf x.toNat (w / 8)).take length

/-! ### The three functions -/

/-- The shape for words of 32 bits. -/
def shape32 : Shape 32 where
  rounds := 64
  sumA := (2, 13, 22)
  sumE := (6, 11, 25)
  scheduleA := (7, 18, 3)
  scheduleB := (17, 19, 10)
  constants := (primes.take 64).map (rootFraction 32 3)

/-- The shape for words of 64 bits. -/
def shape64 : Shape 64 where
  rounds := 80
  sumA := (28, 34, 39)
  sumE := (14, 18, 41)
  scheduleA := (1, 8, 7)
  scheduleB := (19, 61, 6)
  constants := (primes.take 80).map (rootFraction 64 3)

/-- Where SHA-256 starts. -/
def start256 : List (BitVec 32) := (primes.take 8).map (rootFraction 32 2)

/-- Where SHA-384 starts. -/
def start384 : List (BitVec 64) := ((primes.drop 8).take 8).map (rootFraction 64 2)

/-- Where SHA-512 starts. -/
def start512 : List (BitVec 64) := (primes.take 8).map (rootFraction 64 2)

end Sha2

/-- SHA-256. -/
def sha256 : Hash := ⟨64, Sha2.digest Sha2.shape32 Sha2.start256 32⟩

/-- SHA-384. -/
def sha384 : Hash := ⟨128, Sha2.digest Sha2.shape64 Sha2.start384 48⟩

/-- SHA-512. -/
def sha512 : Hash := ⟨128, Sha2.digest Sha2.shape64 Sha2.start512 64⟩

/-- The keyed hash (HMAC) of a message. A key longer than a block is hashed first. -/
def Hash.keyed (hash : Hash) (key message : List UInt8) : List UInt8 :=
  let key := if hash.blockLength < key.length then hash.digest key else key
  let key := key ++ List.replicate (hash.blockLength - key.length) 0
  let mask (m : UInt8) := key.map (· ^^^ m)
  hash.digest (mask 0x5c ++ hash.digest (mask 0x36 ++ message))

end FederatedLogin.Crypto
