/-!
# Blowfish

A cipher on pairs of 32-bit words with 18 subkeys and four boxes of 256 words, all of which start
as the first bits of the fractional part of π. They are held in one array of 1042 words, the
subkeys first. Setting up a key replaces the words pair by pair with what the cipher makes of the
pair before.
-/

namespace FederatedLogin.Crypto.Blowfish

/-! ### The fraction of π -/

/-- The sum of `± term / (odd number)` with the sign changing and `term` divided by `square` each
time; this is `scale` times the arc tangent of `1 / x` for `term = scale / x`. -/
def arctanSum (square : Nat) : Nat → Nat → Nat → Bool → Int → Int
  | 0, _, _, _, sum => sum
  | fuel + 1, term, odd, negative, sum =>
    if term = 0 then sum
    else
      let part : Int := term / odd
      arctanSum square fuel (term / square) (odd + 2) (!negative)
        (if negative then sum - part else sum + part)

/-- `2 ^ bits` times the arc tangent of `1 / x`, rounding aside. -/
def arctanInverse (bits x : Nat) : Int := arctanSum (x * x) bits (Nat.pow 2 bits / x) 1 false 0

/-- How many bits of π are needed. -/
def fractionBits : Nat := 1042 * 32

/-- The first bits of the fractional part of π, as one number: π is sixteen times the arc tangent of
`1 / 5` less four times that of `1 / 239`. Another 64 bits absorb the rounding. -/
def fraction : Nat :=
  let bits := fractionBits + 64
  let scaled := (16 * arctanInverse bits 5 - 4 * arctanInverse bits 239).toNat
  scaled / Nat.pow 2 64 % Nat.pow 2 fractionBits

/-- The words that every key setup starts from. -/
def initial : Array UInt32 :=
  (Array.range 1042).map fun i => UInt32.ofNat (fraction >>> (32 * (1041 - i)) % Nat.pow 2 32)

/-! ### The cipher -/

/-- A word of the schedule. -/
@[inline] def word (schedule : Array UInt32) (i : Nat) : UInt32 := schedule.getD i 0

/-- The function of one half, through the four boxes. -/
@[inline] def mix (schedule : Array UInt32) (x : UInt32) : UInt32 :=
  let box (k : Nat) (shift : UInt32) :=
    word schedule (18 + 256 * k + ((x >>> shift) &&& 0xff).toNat)
  ((box 0 24 + box 1 16) ^^^ box 2 8) + box 3 0

/-- Sixteen rounds, two at a time. -/
def rounds (schedule : Array UInt32) : Nat → Nat → UInt32 → UInt32 → UInt32 × UInt32
  | 0, _, l, r => (l, r)
  | n + 1, i, l, r =>
    let l := l ^^^ word schedule i
    let r := r ^^^ mix schedule l
    let r := r ^^^ word schedule (i + 1)
    let l := l ^^^ mix schedule r
    rounds schedule n (i + 2) l r

/-- Encrypt a pair of words. -/
def encrypt (schedule : Array UInt32) (pair : UInt32 × UInt32) : UInt32 × UInt32 :=
  let (l, r) := rounds schedule 8 0 pair.1 pair.2
  (r ^^^ word schedule 17, l ^^^ word schedule 16)

/-! ### Setting up a key -/

/-- Add the words of a key to the subkeys, going round the key. -/
def addKey (key : Array UInt32) : Nat → Array UInt32 → Array UInt32
  | 0, schedule => schedule
  | n + 1, schedule =>
    let schedule := addKey key n schedule
    schedule.setIfInBounds n (word schedule n ^^^ word key (n % key.size))

/-- Replace the words of the schedule pair by pair, from pair `i` on; the words of the salt are
added to each pair before it is encrypted. -/
def refill (salt : Array UInt32) :
    Nat → Nat → UInt32 × UInt32 → Array UInt32 → Array UInt32
  | 0, _, _, schedule => schedule
  | n + 1, i, pair, schedule =>
    let l := pair.1 ^^^ word salt (2 * i % salt.size)
    let r := pair.2 ^^^ word salt ((2 * i + 1) % salt.size)
    let next := encrypt schedule (l, r)
    refill salt n (i + 1) next
      ((schedule.setIfInBounds (2 * i) next.1).setIfInBounds (2 * i + 1) next.2)

/-- Set up a key and a salt, both as words. -/
def expand (salt key schedule : Array UInt32) : Array UInt32 :=
  refill salt 521 0 (0, 0) (addKey key 18 schedule)

end FederatedLogin.Crypto.Blowfish
