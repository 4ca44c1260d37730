import FederatedLogin.Text.Integer
import FederatedLogin.Text.Quoted

/-!
# Account identifiers

An account is known by a 128-bit identifier, written as thirty-two hexadecimal digits in five
groups. Reading is more lenient than writing: dashes may be missing, braces may stand around the
digits, and `urn:` and `uuid:` are dropped wherever they occur.
-/

namespace FederatedLogin

/-- A 128-bit identifier. -/
structure Uuid where
  value : BitVec 128
  deriving DecidableEq, Repr

namespace Uuid

instance : Inhabited Uuid := ⟨⟨0⟩⟩

/-- The thirty-two digits of an identifier. -/
def digits (u : Uuid) : List Char := Text.hex 32 u.value.toNat

/-- The written form: groups of 8, 4, 4, 4 and 12 digits with dashes between them. -/
def text (u : Uuid) : String :=
  let d := u.digits
  let group (from' count : Nat) := String.ofList ((d.drop from').take count)
  String.intercalate "-" [group 0 8, group 8 4, group 12 4, group 16 4, group 20 12]

/-- Remove every occurrence of a word, from the left. -/
def without (word : List Char) : Nat → List Char → List Char
  | 0, s => s
  | _, [] => []
  | fuel + 1, c :: rest =>
    if word.isPrefixOf (c :: rest) then without word fuel ((c :: rest).drop word.length)
    else c :: without word fuel rest

/-- Read an identifier. -/
def ofText? (s : String) : Option Uuid :=
  let cs := without "urn:".toList (s.length + 1) s.toList
  let cs := without "uuid:".toList (s.length + 1) cs
  let cs := (Text.stripBy (fun c => c = '\x7b' || c = '\x7d') cs).filter (· ≠ '-')
  if cs.length = 32 then
    match Text.integer? 16 cs with
    | some (.ofNat n) => some ⟨.ofNat 128 n⟩
    | _ => none
  else none

/-- The identifier that the `n`-th account of a session gets. -/
def nth (n : Nat) : Uuid := ⟨.ofNat 128 (0x5d3cf1a7e4b946c28f10a96be2740000 + n)⟩

end Uuid

end FederatedLogin
