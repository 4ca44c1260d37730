/-!
# Base64

Six bits of a byte sequence at a time become one character of an alphabet of sixty-four; the last
group is filled up with zero bits, and nothing marks the end. `decode` is strict and takes only what
`encode` writes. `decodeLenient` takes both common alphabets, skips any other character, drops bits
that are left over, and wants the padding marks that complete the last group.
-/

namespace FederatedLogin.Text.Base64

/-- The letters and digits in their usual order. -/
private def letters : List Char := "ABCDEFGHIJKLMNOPQRSTUVWXYZabcdefghijklmnopqrstuvwxyz".toList

/-- The alphabet whose texts can stand in an address. -/
def urlAlphabet : List Char := letters ++ "0123456789-_".toList

/-- The alphabet of password hashes. -/
def hashAlphabet : List Char := "./".toList ++ letters ++ "0123456789".toList

/-- The value of a character in an alphabet. -/
def valueIn? (alphabet : List Char) (c : Char) : Option Nat := alphabet.idxOf? c

/-- The characters for a byte sequence. -/
def encode (alphabet : List Char) : List UInt8 → List Char
  | [] => []
  | [a] =>
    let n := a.toNat * 16
    [n / 64, n % 64].map (alphabet.getD · '?')
  | [a, b] =>
    let n := (a.toNat * 256 + b.toNat) * 4
    [n / 4096, n / 64 % 64, n % 64].map (alphabet.getD · '?')
  | a :: b :: c :: rest =>
    let n := (a.toNat * 256 + b.toNat) * 256 + c.toNat
    [n / 262144, n / 4096 % 64, n / 64 % 64, n % 64].map (alphabet.getD · '?') ++
      encode alphabet rest

/-- The bytes that a list of six-bit values spells; left-over bits are dropped. -/
def ofSextets : List Nat → List UInt8
  | a :: b :: c :: d :: rest =>
    let n := ((a * 64 + b) * 64 + c) * 64 + d
    UInt8.ofNat (n / 65536) :: UInt8.ofNat (n / 256) :: UInt8.ofNat n :: ofSextets rest
  | [a, b, c] =>
    let n := (a * 64 + b) * 64 + c
    [UInt8.ofNat (n / 1024), UInt8.ofNat (n / 4)]
  | [a, b] => [UInt8.ofNat ((a * 64 + b) / 16)]
  | _ => []

/-- The bits that six-bit values have beyond whole bytes are zero. -/
def noBitsLeft : List Nat → Bool
  | _ :: _ :: _ :: _ :: rest => noBitsLeft rest
  | [_, _, c] => c % 4 = 0
  | [_, b] => b % 16 = 0
  | [_] => false
  | [] => true

/-- The bytes for a text over an alphabet. -/
def decode (alphabet : List Char) (s : List Char) : Option (List UInt8) :=
  ((s.mapM (valueIn? alphabet)).filter noBitsLeft).map ofSextets

/-- The value of a character in either common alphabet. -/
def anyValue? (c : Char) : Option Nat :=
  if c = '+' then some 62 else if c = '/' then some 63 else valueIn? urlAlphabet c

/-- The six-bit values of a text up to its padding. `pads` counts the padding marks since the last
value; the padding is complete once it fills the group of four that it stands in. Without complete
padding, the values have to fill their last group. -/
def lenientSextets (got : List Nat) (pads : Nat) : List Char → Option (List Nat)
  | [] => if got.length % 4 = 0 then some got.reverse else none
  | '=' :: rest =>
    let filled := got.length % 4
    if 2 ≤ filled then
      if 4 ≤ filled + (pads + 1) then some got.reverse else lenientSextets got (pads + 1) rest
    else lenientSextets got pads rest
  | c :: rest =>
    match anyValue? c with
    | some v => lenientSextets (v :: got) 0 rest
    | none => lenientSextets got pads rest

/-- The bytes for a text whose padding marks were left out; `length` is that of the text in
bytes. -/
def decodeLenient (length : Nat) (s : List Char) : Option (List UInt8) :=
  (lenientSextets [] 0 (s ++ List.replicate ((4 - length % 4) % 4) '=')).map ofSextets

end FederatedLogin.Text.Base64
