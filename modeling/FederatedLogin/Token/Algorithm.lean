import FederatedLogin.Crypto.Sha2

/-!
# Signature algorithms

A token is signed with a keyed hash, or not at all. A key must not be empty and must not look like
the public or private key of another kind of signature.
-/

namespace FederatedLogin.Token

/-- How a token is signed. -/
inductive Algorithm where
  | keyed256 | keyed384 | keyed512 | unsigned
  deriving DecidableEq, Repr, Inhabited

namespace Algorithm

/-- Every algorithm. -/
def all : List Algorithm := [keyed256, keyed384, keyed512, unsigned]

/-- The name of an algorithm in configuration and in token headers. -/
def name : Algorithm → String
  | keyed256 => "HS256"
  | keyed384 => "HS384"
  | keyed512 => "HS512"
  | unsigned => "none"

/-- The algorithm with a name. -/
def ofName? (s : String) : Option Algorithm := all.find? (·.name == s)

/-- The signature of a message. -/
def sign (key message : List UInt8) : Algorithm → List UInt8
  | keyed256 => Crypto.sha256.keyed key message
  | keyed384 => Crypto.sha384.keyed key message
  | keyed512 => Crypto.sha512.keyed key message
  | unsigned => []

/-- The signature is the one that the message has; an unsigned message has none. -/
def verify (key message signature : List UInt8) (a : Algorithm) : Bool :=
  a ≠ unsigned && a.sign key message == signature

end Algorithm

/-- Names of algorithms that would need a pair of keys. -/
def pairAlgorithms : List String :=
  ["RS256", "RS384", "RS512", "ES256", "ES256K", "ES384", "ES521", "ES512", "PS256", "PS384",
    "PS512", "EdDSA"]

/-! ### Keys -/

/-- Why a key cannot be used. -/
inductive KeyFlaw where
  | empty | ofKeyPair | unexpected
  deriving DecidableEq, Repr, Inhabited

/-- The wording of a flaw. -/
def KeyFlaw.message : KeyFlaw → String
  | empty => "HMAC key must not be empty."
  | ofKeyPair => "The specified key is an asymmetric key or x509 certificate and should not be " ++
      "used as an HMAC secret."
  | unexpected => "When alg = \"none\", key value must be None."

/-- The labels of armoured keys and certificates. -/
def armourLabels : List String :=
  ["CERTIFICATE", "TRUSTED CERTIFICATE", "PRIVATE KEY", "PUBLIC KEY", "ENCRYPTED PRIVATE KEY",
    "OPENSSH PRIVATE KEY", "DSA PRIVATE KEY", "RSA PRIVATE KEY", "RSA PUBLIC KEY",
    "EC PRIVATE KEY", "DH PARAMETERS", "NEW CERTIFICATE REQUEST", "CERTIFICATE REQUEST",
    "SSH2 PUBLIC KEY", "SSH2 ENCRYPTED PRIVATE KEY", "X509 CRL"]

/-- The rest of a text after a word, if it starts with it. -/
def after? (word s : List Char) : Option (List Char) :=
  if word.isPrefixOf s then some (s.drop word.length) else none

/-- The rest of a text after a line of armour: four dashes, a dash or blank, the words, a dash or
blank, and four dashes. -/
def afterArmour? (words s : List Char) : Option (List Char) :=
  let edge (s : List Char) : Option (List Char) :=
    match s with
    | '-' :: rest | ' ' :: rest => some rest
    | _ => none
  (after? "----".toList s).bind fun s => (edge s).bind fun s => (after? words s).bind fun s =>
    (edge s).bind (after? "----".toList)

/-- The rest of a text after a line end. -/
def afterLineEnd? : List Char → Option (List Char)
  | '\r' :: '\n' :: rest => some rest
  | '\n' :: rest => some rest
  | _ => none

/-- The text or some end of it passes the test. -/
def someTail (p : List Char → Bool) : List Char → Bool
  | [] => p []
  | c :: rest => p (c :: rest) || someTail p rest

/-- An armoured block with a label starts here: an opening line, at least one character, and a
closing line. -/
def startsArmour (s : List Char) (label : String) : Bool :=
  match (afterArmour? ("BEGIN ".toList ++ label.toList) s).bind afterLineEnd? with
  | some (_ :: rest) => someTail (fun t =>
      ((afterLineEnd? t).bind (afterArmour? ("END ".toList ++ label.toList))).isSome) rest
  | _ => false

/-- The words by which a shell key is known. -/
def shellKeyWords : List String :=
  ["ssh-ed25519", "ssh-rsa", "ssh-dss", "ecdsa-sha2-nistp256", "ecdsa-sha2-nistp384",
    "ecdsa-sha2-nistp521"]

/-- A character that separates words of a shell key. -/
def isAsciiSpace (c : Char) : Bool := c = ' ' || (9 ≤ c.toNat && c.toNat ≤ 13)

/-- The text is a certificate of a shell key: its first word ends in the certificate mark, and
another word follows. -/
def isShellCertificate (s : List Char) : Bool :=
  let (word, rest) := s.span fun c => !isAsciiSpace c
  let follows := rest.dropWhile fun c => c = ' ' || c = '\t'
  let mark := "-cert-v01@openssh.com".toList
  mark.isSuffixOf word && follows.length < rest.length && match follows with
    | c :: _ => !isAsciiSpace c
    | [] => false

/-- A text looks like the key of a key pair, or like a certificate. -/
def isOfKeyPair (s : List Char) : Bool :=
  someTail (fun t => armourLabels.any (startsArmour t)) s ||
    shellKeyWords.any (fun w => someTail (w.toList.isPrefixOf ·) s) || isShellCertificate s

/-- The bytes of a key that an algorithm can use. -/
def Algorithm.key (a : Algorithm) (key : String) : Except KeyFlaw (List UInt8) :=
  match a with
  | .unsigned => if key.isEmpty then .ok [] else .error .unexpected
  | _ =>
    if isOfKeyPair key.toList then .error .ofKeyPair
    else if key.isEmpty then .error .empty
    else .ok key.toUTF8.toList

end FederatedLogin.Token
