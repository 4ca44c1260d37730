import FederatedLogin.Field
import FederatedLogin.Provider

/-!
# Assertions and attribute patches

An assertion is what a provider says about a principal that it has authenticated. Email, names and
the provider's own id come without spacing around them; role names are kept exactly as they were
asserted. The email has 1 to 255 characters. A patch carries new attributes for a known account.
-/

namespace FederatedLogin

/-- An identity that a provider vouches for. -/
structure Assertion where
  email : String
  firstName : Option String
  lastName : Option String
  externalId : Option String
  externalRoles : List String
  provider : Provider
  deriving DecidableEq, Repr, Inhabited

namespace Assertion

/-- The longest email, in characters. -/
def maxEmail : Nat := 255

/-- The form of the email that accounts are keyed by. -/
def normalizedEmail (a : Assertion) : String := Text.lower a.email

/-- Strip a text before it is looked at further; other values stay. -/
def stripped : Datum → Datum
  | .text t =>
    match t.toString? with
    | some s => .str (Text.strip s)
    | none => .text t
  | d => d

/-- A string whose length is within bounds. -/
def bounded (least most : Nat) (d : Datum) : Field.Checked String := do
  let s ← Field.string d
  if s.length < least then Field.flawed (.tooShort least)
  else if most < s.length then Field.flawed (.tooLong most)
  else return s

/-- The provider that a value names. -/
def provider? : Datum → Field.Checked Provider
  | .text t =>
    match t.toString?.bind Provider.ofName? with
    | some p => .ok p
    | none => Field.flawed (.notMember (Provider.all.map (·.name)))
  | _ => Field.flawed (.notMember (Provider.all.map (·.name)))

/-- Read an assertion from named values, with every fault of every field. -/
def ofEntries (entries : List (Text × Datum)) : Field.Checked Assertion :=
  let text (name : String) : Field.Checked (Option String) :=
    Field.read entries name (.ok none) (Field.string? ∘ stripped)
  let made : Field.Checked (String → Option String → Option String → Option String →
      List String → Provider → Assertion) := .ok Assertion.mk
  let made := Field.both made
    (Field.read entries "email" (Field.flawed .missing) (bounded 1 maxEmail ∘ stripped))
  let made := Field.both made (text "first_name")
  let made := Field.both made (text "last_name")
  let made := Field.both made (text "external_user_id")
  let made := Field.both made
    (Field.read entries "external_roles" (.ok []) (Field.strings .notTuple))
  Field.both made (Field.read entries "auth_provider" (Field.flawed .missing) provider?)

end Assertion

/-- New attributes for a known account. -/
structure AttributePatch where
  firstName : Option String
  lastName : Option String
  email : Option String
  roles : Option (List String)
  deriving DecidableEq, Repr, Inhabited

namespace AttributePatch

/-- A string without the blanks around it, or null. -/
def string? (d : Datum) : Field.Checked (Option String) :=
  (Field.string? d).map (·.map Text.stripBlanks)

/-- A list of strings without the blanks around them, or null. -/
def strings? : Datum → Field.Checked (Option (List String))
  | .null => .ok none
  | d => (Field.strings .notList d).map fun l => some (l.map Text.stripBlanks)

/-- Read a patch from named values, with every fault of every field. -/
def ofEntries (entries : List (Text × Datum)) : Field.Checked AttributePatch :=
  let made : Field.Checked (Option String → Option String → Option String →
      Option (List String) → AttributePatch) := .ok AttributePatch.mk
  let made := Field.both made (Field.read entries "first_name" (.ok none) string?)
  let made := Field.both made (Field.read entries "last_name" (.ok none) string?)
  let made := Field.both made (Field.read entries "email" (.ok none) string?)
  Field.both made (Field.read entries "roles" (.ok none) strings?)

end AttributePatch

end FederatedLogin
