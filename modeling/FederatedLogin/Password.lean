import FederatedLogin.Crypto.Blowfish
import FederatedLogin.Datum
import FederatedLogin.Text.Base64

/-!
# Passwords

A password is kept as a hash in the bcrypt format: a version, a cost, 22 characters of salt and 31
characters of digest. `hash` makes one with the settings of any text that starts with version, cost
and salt; so a password fits a hash exactly if hashing it with the hash itself as settings gives
the hash back. `check` never fails: what is no hash fits no password.
-/

namespace FederatedLogin.Password

/-- Why a password cannot be hashed. -/
inductive Refusal where
  | tooLong | badSettings
  deriving DecidableEq, Repr

/-- The wording of a refusal. -/
def Refusal.message : Refusal → String
  | tooLong =>
    "password cannot be longer than 72 bytes, " ++
      "truncate manually if necessary (e.g. my_password[:72])"
  | badSettings => "Invalid salt"

/-- The longest password, in bytes. -/
def maxBytes : Nat := 72

/-- What a hash is made with. -/
structure HashSettings where
  version : String
  cost : Nat
  salt : List UInt8
  deriving DecidableEq, Repr

/-- The versions of the format. -/
def versions : List String := ["2a", "2b", "2x", "2y"]

/-- A cost: decimal digits after an optional plus sign. -/
def cost? (s : List Char) : Option Nat :=
  let ds := match s with
    | '+' :: rest => rest
    | _ => s
  if !ds.isEmpty && ds.all Char.isDigit then
    (some (ds.foldl (fun n c => n * 10 + (c.toNat - 48)) 0)).filter fun n => 4 ≤ n && n ≤ 31
  else none

/-- Cut a text at each dollar sign. -/
def fields (s : List Char) : List (List Char) :=
  s.foldr (fun c acc =>
    match c, acc with
    | '$', acc => [] :: acc
    | c, f :: rest => (c :: f) :: rest
    | c, [] => [[c]]) [[]]

/-- The settings that a text starts with; empty fields do not count. -/
def settings? (s : String) : Option HashSettings :=
  match (fields s.toList).filter (!·.isEmpty) with
  | [version, cost, rest] =>
    let version := String.ofList version
    if versions.contains version && 22 ≤ rest.length then do
      let cost ← cost? cost
      let salt ← Text.Base64.decode Text.Base64.hashAlphabet (rest.take 22)
      return ⟨version, cost, salt⟩
    else none
  | _ => none

/-- The first words that bytes spell when read round and round. -/
def wordsRound (bytes : Array UInt8) (count : Nat) : Array UInt32 :=
  (Array.range count).map fun i =>
    (List.range 4).foldl (fun w j =>
      (w <<< 8) ||| (bytes.getD ((4 * i + j) % bytes.size) 0).toUInt32) 0

/-- Set up key and salt in turn, over and over. -/
def alternate (zero salt key : Array UInt32) : Nat → Array UInt32 → Array UInt32
  | 0, schedule => schedule
  | n + 1, schedule =>
    alternate zero salt key n
      (Crypto.Blowfish.expand zero salt (Crypto.Blowfish.expand zero key schedule))

/-- Encrypt a pair of words 64 times. -/
def encrypt64 (schedule : Array UInt32) (pair : UInt32 × UInt32) : UInt32 × UInt32 :=
  64 |>.fold (fun _ _ p => Crypto.Blowfish.encrypt schedule p) pair

/-- The text that is encrypted under the key that the password sets up. -/
def magic : Array UInt8 := "OrpheanBeholderScryDoubt".toUTF8.data

/-- The 23 bytes of the digest. -/
def digest (cost : Nat) (salt password : List UInt8) : List UInt8 :=
  let key := wordsRound (password ++ [0] |>.take maxBytes).toArray 18
  let salt := wordsRound salt.toArray 4
  let zero : Array UInt32 := #[0]
  let schedule := alternate zero salt key (Nat.pow 2 cost)
    (Crypto.Blowfish.expand salt key Crypto.Blowfish.initial)
  let text := wordsRound magic 6
  let pairs := (List.range 3).map fun i =>
    encrypt64 schedule (text.getD (2 * i) 0, text.getD (2 * i + 1) 0)
  let bytes (w : UInt32) : List UInt8 :=
    [(w >>> 24).toUInt8, (w >>> 16).toUInt8, (w >>> 8).toUInt8, w.toUInt8]
  (pairs.flatMap fun p => bytes p.1 ++ bytes p.2).take 23

/-- The written form of settings. -/
def HashSettings.text (s : HashSettings) : List Char :=
  let cost := (toString s.cost).toList
  '$' :: s.version.toList ++ '$' :: List.replicate (2 - cost.length) '0' ++ cost ++ '$' ::
    Text.Base64.encode Text.Base64.hashAlphabet s.salt

/-- The hash of a password under settings. -/
def hashWith (s : HashSettings) (password : String) : String :=
  String.ofList (s.text ++
    Text.Base64.encode Text.Base64.hashAlphabet (digest s.cost s.salt password.toUTF8.toList))

/-- The hash of a password, with the settings that a text starts with. -/
def hash (settings password : String) : Except Refusal String :=
  if maxBytes < password.utf8ByteSize then .error .tooLong
  else
    match settings? settings with
    | some s => .ok (hashWith s password)
    | none => .error .badSettings

/-- A password fits a hash. -/
def check (password hashed : String) : Bool :=
  match hash hashed password with
  | .ok h => h == hashed
  | .error _ => false

/-- A stored value that should be a hash but is neither empty nor a text. -/
structure NotText where
  typeName : String
  deriving DecidableEq, Repr

/-- The wording of a stored value that is no text. -/
def NotText.message (e : NotText) : String := s!"'{e.typeName}' object has no attribute 'encode'"

/-- A password fits a stored value. An empty value and a text with lone surrogates fit none. -/
def checkStored (password : String) (stored : Datum) : Except NotText Bool :=
  if !stored.truthy then .ok false
  else
    match stored with
    | .text t => .ok (t.toString?.any (check password))
    | d => .error ⟨d.typeName⟩

/-- A password fits a stored value, whatever text the password is. One with lone surrogates has no
bytes, and fits none. -/
def verify (password : Text) (stored : Datum) : Except NotText Bool :=
  match password.toString? with
  | some p => checkStored p stored
  | none => .ok false

end FederatedLogin.Password
