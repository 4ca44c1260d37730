import FederatedLogin.Json.Reader
import FederatedLogin.Json.Writer
import FederatedLogin.Settings
import FederatedLogin.Text.Base64
import FederatedLogin.Text.Integer
import FederatedLogin.Token.Algorithm

/-!
# Access tokens

A token is a header, claims and a signature, each in base64, with a dot between each two of them.
`issue` makes the token of a user who has logged in; it expires after the configured time. `read`
gives back the claims of a token whose signature, times and issuer are in order, and says of any
other token only whether it has expired or is invalid, unless the configured key cannot be used.
-/

namespace FederatedLogin.Token

/-- Who issues the tokens. -/
def issuer : String := "idbridge"

/-- The base64 form of bytes. -/
def encoded (bytes : List UInt8) : String :=
  String.ofList (Text.Base64.encode Text.Base64.urlAlphabet bytes)

/-- The part of a token that is signed. -/
def signedPart (header claims : Datum) : String :=
  let part (d : Datum) := encoded (Json.write Json.compact d).toUTF8.toList
  part header ++ "." ++ part claims

/-- A token with any header and claims. -/
def make (a : Algorithm) (key : List UInt8) (header claims : Datum) : String :=
  let text := signedPart header claims
  text ++ "." ++ encoded (a.sign key text.toUTF8.toList)

/-! ### Issuing -/

/-- Why a token cannot be issued. -/
inductive IssueError where
  | unknownAlgorithm
  | pairAlgorithm (name : String)
  | key (flaw : KeyFlaw)
  /-- The lifetime has more days than can be counted. -/
  | countlessDays
  | tooManyDays (days : Int)
  /-- The token would expire before the year 1 or after the year 9999. -/
  | beyondCalendar
  deriving DecidableEq, Repr

/-- The wording of a failure to issue a token. -/
def IssueError.message : IssueError → String
  | unknownAlgorithm => "Algorithm not supported"
  | pairAlgorithm name =>
    s!"Algorithm '{name}' could not be found. Do you have cryptography installed?"
  | key flaw => flaw.message
  | countlessDays => "Python int too large to convert to C int"
  | tooManyDays days => s!"days={days}; must have magnitude <= 999999999"
  | beyondCalendar => "date value out of range"

/-- The first and the last second of the calendar, counted from 1970. -/
def firstSecond : Int := -62135596800
def lastSecond : Int := 253402300799

/-- When a token expires that is issued now. -/
def expiry (now minutes : Int) : Except IssueError Int :=
  let days := Int.fdiv minutes 1440
  if days < -0x80000000 ∨ 0x80000000 ≤ days then .error .countlessDays
  else if days < -999999999 ∨ 999999999 < days then .error (.tooManyDays days)
  else
    let t := now + 60 * minutes
    if t < firstSecond ∨ lastSecond < t then .error .beyondCalendar else .ok t

/-- The algorithm with a name, to sign with. -/
def signer (name : String) : Except IssueError Algorithm :=
  match Algorithm.ofName? name with
  | some a => .ok a
  | none => .error (if pairAlgorithms.contains name then .pairAlgorithm name else .unknownAlgorithm)

/-- The claims of a token. -/
def claimsOf (now expires : Int) (subject role provider : Datum) : Datum :=
  .object [("sub", subject), ("role", role), ("provider", provider), ("iat", .int now),
    ("exp", .int expires), ("iss", .str issuer)]

/-- The token of a user who has logged in. -/
def issue (s : Settings) (now : Int) (subject role provider : Datum) :
    Except IssueError String := do
  let expires ← expiry now s.jwtExpireMinutes
  let a ← signer s.jwtAlgorithm
  let key ← (a.key s.jwtSecretKey).mapError .key
  return make a key (.object [("alg", .str a.name), ("typ", .str "JWT")])
    (claimsOf now expires subject role provider)

/-! ### Reading -/

/-- What a client learns about a token that is refused. -/
inductive Rejection where
  | expired | invalid
  deriving DecidableEq, Repr, Inhabited

/-- The wording of a rejection. -/
def Rejection.message : Rejection → String
  | expired => "Token expired"
  | invalid => "Invalid token"

/-- Why a token cannot be read. -/
inductive ReadError where
  | rejected (r : Rejection)
  /-- The configured algorithm cannot use the configured key. -/
  | key (flaw : KeyFlaw)
  deriving DecidableEq, Repr

/-- The token is invalid. -/
def invalid {α : Type} : Except ReadError α := .error (.rejected .invalid)

/-- The token is invalid without this value. -/
def orInvalid {α : Type} : Option α → Except ReadError α
  | some a => .ok a
  | none => invalid

/-- The parts of a token; what is signed are the first two segments, as they are written. -/
structure Parts where
  signed : List Char
  header : List UInt8
  claims : List UInt8
  signature : List UInt8

/-- The bytes that a segment of a token stands for. -/
def decoded? (segment : List Char) : Option (List UInt8) :=
  Text.Base64.decodeLenient (String.ofList segment).utf8ByteSize segment

/-- Take a token apart. It has three segments, no more and no fewer. -/
def parts? (token : String) : Option Parts :=
  match token.toList.splitOn '.' with
  | [header, claims, signature] => do
    return ⟨header ++ '.' :: claims, ← decoded? header, ← decoded? claims, ← decoded? signature⟩
  | _ => none

/-- The entries of a JSON object. A text that is beyond the limits of the reader is as bad as one
that is no JSON at all. -/
def entries (bytes : List UInt8) : Except ReadError (List (Text × Datum)) :=
  match String.fromUTF8? ⟨bytes.toArray⟩ with
  | none => invalid
  | some s =>
    match Json.readText s with
    | .ok (.record es) => .ok es
    | _ => invalid

/-- A claim or header field. -/
def field? (es : List (Text × Datum)) (name : String) : Option Datum :=
  Datum.lookup (Text.ofString name) es

/-- A field is absent or a text. -/
def textOrAbsent (es : List (Text × Datum)) (name : String) : Bool :=
  match field? es name with
  | none | some (.text _) => true
  | _ => false

/-- The extensions that a header declares critical are known ones that it uses. -/
def knowsCritical (header : List (Text × Datum)) : Bool :=
  match field? header "crit" with
  | none => true
  | some (.list (d :: ds)) => (d :: ds).all fun d =>
      d.toString? == some "b64" && (field? header "b64").isSome
  | some _ => false

/-- The header is one of a token whose claims are inside it. -/
def acceptableHeader (header : List (Text × Datum)) : Bool :=
  textOrAbsent header "kid" && knowsCritical header && match field? header "b64" with
    | some (.bool false) => false
    | _ => true

/-- The second that a claim names, if it is a finite number or a text that spells one. -/
def second : Datum → Except ReadError Int
  | .int n => .ok n
  | .bool b => .ok (if b then 1 else 0)
  | .float x => orInvalid x.truncate?
  | .text t =>
    orInvalid (t.chars?.bind fun s => if 4300 < s.length then none else Text.integer? 10 s)
  | _ => invalid

/-- The second of a claim that may be missing. -/
def second? (claims : List (Text × Datum)) (name : String) : Except ReadError (Option Int) :=
  match field? claims name with
  | none => .ok none
  | some d => (second d).map some

/-- Refuse the token as invalid unless the condition holds. -/
def require (ok : Bool) : Except ReadError Unit := if ok then .ok () else invalid

/-- A claim is there and not null. -/
def present (claims : List (Text × Datum)) (name : String) : Bool :=
  match field? claims name with
  | none | some .null => false
  | some _ => true

/-- Check the claims of a token at a time. -/
def checkClaims (now : Int) (claims : List (Text × Datum)) : Except ReadError Unit := do
  require (["sub", "exp", "iss"].all (present claims))
  let issued ← second? claims "iat"
  require (issued.all (· ≤ now))
  let usable ← second? claims "nbf"
  require (usable.all (· ≤ now))
  let expires ← second? claims "exp"
  if expires.any (· ≤ now) then .error (.rejected .expired)
  require ((field? claims "iss").bind Datum.toString? == some issuer)
  require (!(field? claims "aud").any Datum.truthy)
  require (textOrAbsent claims "sub" && textOrAbsent claims "jti")

/-- The claims of a token. The key is prepared only once the header is in order, and the claims are
looked at only once the signature is. -/
def read (s : Settings) (now : Int) (token : String) :
    Except ReadError (List (Text × Datum)) := do
  let parts ← orInvalid (parts? token)
  let header ← entries parts.header
  require (acceptableHeader header)
  let name := (field? header "alg").bind Datum.toString?
  require (name == some s.jwtAlgorithm && !s.jwtAlgorithm.isEmpty)
  let a ← orInvalid (Algorithm.ofName? s.jwtAlgorithm)
  let key ← (a.key s.jwtSecretKey).mapError .key
  require (a.verify key (String.ofList parts.signed).toUTF8.toList parts.signature)
  let claims ← entries parts.claims
  checkClaims now claims
  return claims

end FederatedLogin.Token
