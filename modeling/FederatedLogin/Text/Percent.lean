import FederatedLogin.Text.Quoted

/-!
# Percent-coding

In an address, a byte can be written as a percent sign and two hexadecimal digits. Encoding does so
with the UTF-8 bytes of every character outside a safe set; decoding puts the replacement character
where the bytes are no UTF-8.
-/

namespace FederatedLogin.Text

/-- The character may stand in an address anywhere. -/
def isUnreserved (c : Char) : Bool :=
  c.isAlphanum || c = '_' || c = '.' || c = '-' || c = '~'

/-- Write every byte of a character outside the safe set with a percent sign. -/
def percentEncode (safe : List Char) (s : String) : String :=
  String.ofList (s.toList.flatMap fun c =>
    if isUnreserved c || safe.contains c then [c]
    else (String.singleton c).toUTF8.toList.flatMap fun b =>
      '%' :: (hex 2 b.toNat).map Char.toUpper)

/-- Encode for a query, where a plus sign stands for a blank. -/
def queryEncode (s : String) : String :=
  String.ofList ((percentEncode [' '] s).toList.map fun c => if c = ' ' then '+' else c)

/-- The value of a hexadecimal digit. -/
private def nibble? (c : Char) : Option Nat :=
  if '0' ≤ c ∧ c ≤ '9' then some (c.toNat - 48)
  else if 'a' ≤ c ∧ c ≤ 'f' then some (c.toNat - 87)
  else if 'A' ≤ c ∧ c ≤ 'F' then some (c.toNat - 55)
  else none

/-- How many bytes a character has that starts with this byte, and the range of its second byte. -/
def leadByte? (b : Nat) : Option (Nat × Nat × Nat) :=
  if b < 0x80 then some (1, 0, 0)
  else if b < 0xc2 then none
  else if b < 0xe0 then some (2, 0x80, 0xbf)
  else if b = 0xe0 then some (3, 0xa0, 0xbf)
  else if b = 0xed then some (3, 0x80, 0x9f)
  else if b < 0xf0 then some (3, 0x80, 0xbf)
  else if b = 0xf0 then some (4, 0x90, 0xbf)
  else if b < 0xf4 then some (4, 0x80, 0xbf)
  else if b = 0xf4 then some (4, 0x80, 0x8f)
  else none

/-- The bytes of a character that follow its lead byte, up to the first that cannot. -/
def continuation (least most : Nat) : Nat → List UInt8 → List UInt8
  | 0, _ => []
  | _, [] => []
  | n + 1, b :: rest =>
    if least ≤ b.toNat ∧ b.toNat ≤ most then b :: continuation 0x80 0xbf n rest else []

/-- Bytes as characters; the longest beginning of a character that is not completed becomes one
replacement character. -/
def decodeBytes : Nat → List UInt8 → List Char
  | 0, _ => []
  | _, [] => []
  | fuel + 1, b :: rest =>
    match leadByte? b.toNat with
    | none => '\ufffd' :: decodeBytes fuel rest
    | some (length, least, most) =>
      let more := continuation least most (length - 1) rest
      let rest := rest.drop more.length
      if more.length + 1 = length then
        let lead := if length = 1 then b.toNat else b.toNat % Nat.pow 2 (7 - length)
        Char.ofNat (more.foldl (fun n b => n * 64 + b.toNat % 64) lead) :: decodeBytes fuel rest
      else '\ufffd' :: decodeBytes fuel rest

/-- Bytes written so far, as characters in front of others. -/
private def flush (bytes : List UInt8) (cs : List Char) : List Char :=
  decodeBytes bytes.length bytes.reverse ++ cs

/-- Decode a text; `bytes` are the bytes before it, the last one first. -/
def percentDecodeFrom (bytes : List UInt8) : List Char → List Char
  | [] => flush bytes []
  | '%' :: a :: b :: rest =>
    match nibble? a, nibble? b with
    | some x, some y => percentDecodeFrom (UInt8.ofNat (x * 16 + y) :: bytes) rest
    | _, _ => percentDecodeFrom (37 :: bytes) (a :: b :: rest)
  | c :: rest =>
    if c.toNat < 128 then percentDecodeFrom (UInt8.ofNat c.toNat :: bytes) rest
    else flush bytes (c :: percentDecodeFrom [] rest)

/-- Decode a text. -/
def percentDecode (s : String) : String := String.ofList (percentDecodeFrom [] s.toList)

/-- Decode a part of a query, where a plus sign stands for a blank. -/
def queryDecode (s : List Char) : String :=
  percentDecode (String.ofList (s.map fun c => if c = '+' then ' ' else c))

end FederatedLogin.Text
