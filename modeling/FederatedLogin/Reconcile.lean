import FederatedLogin.Assertion
import FederatedLogin.RoleMapping
import FederatedLogin.Settings
import FederatedLogin.Store.Action

/-!
# Reconciling an asserted identity with the store

A provider's assertion is brought together with the local user of the same email. An unknown user is
created with the default role, a known one gets the asserted names that are not blank. Then, in a
write of its own, the role that the provider's mapping gives to the asserted roles is applied, if
there is one. A failure of the second step never undoes the first.
-/

namespace FederatedLogin

/-- What reconciling depends on besides the store. -/
structure Policy where
  /-- The slug of the role that new users get. -/
  defaultRole : String
  /-- Unknown users are created. -/
  provisioning : Bool
  /-- The role mapping text of each provider. -/
  mappings : MappingTexts
  deriving Inhabited

/-- The policy of settings, with mapping texts of their own or from elsewhere. -/
def Settings.policy (s : Settings) (mappings : MappingTexts) : Policy :=
  ⟨s.defaultRoleSlug, s.jitProvisioning, mappings⟩

namespace Reconcile

/-- Why a reconciliation ends early. -/
inductive Failure where
  | provisioningDisabled (email : String)
  | defaultRoleMissing (slug : String)
  | duplicateEmail (email : String)
  | mappingBeyond (limit : Json.Limit)
  /-- A mapped slug that is no proper text cannot be looked up. -/
  | slugNotText (slug : Text)
  | store (fault : Store.Fault)
  deriving DecidableEq, Repr

/-- Where the first run of lone surrogates starts, and how long it is. -/
def loneRun (t : Text) : Nat × Nat :=
  let isChar (p : CodePoint) := p.toChar?.isSome
  let before := t.takeWhile isChar
  (before.length, ((t.drop before.length).takeWhile (!isChar ·)).length)

/-- The wording of a text that has no UTF-8 form. -/
def notUtf8Message (t : Text) : String :=
  let (start, length) := loneRun t
  match length, t[start]? with
  | 1, some p =>
    s!"'utf-8' codec can't encode character '\\u{String.ofList (Text.hex 4 p.toNat)}' " ++
      s!"in position {start}: surrogates not allowed"
  | _, _ =>
    s!"'utf-8' codec can't encode characters in position {start}-{start + length - 1}: " ++
      "surrogates not allowed"

/-- The wording of a failure. -/
def Failure.message : Failure → String
  | provisioningDisabled email =>
    s!"JIT provisioning disabled, no local user for {Text.quotedString email}"
  | defaultRoleMissing slug => s!"Default role {Text.quotedString slug} not found"
  | duplicateEmail email => s!"A user with email {Text.quotedString email} already exists"
  | mappingBeyond limit => limit.message
  | slugNotText slug => notUtf8Message slug
  | store _ => ""

/-- Add a new user; its email is stored in lower case. Whatever the store refuses counts as an email
that is taken. -/
def create (d : Draft) : Action Failure User := do
  let d := { d with email := Text.lower d.email }
  match (← Action.store).insertDraft d with
  | .ok (u, s) =>
    Action.put s
    return u
  | .error _ => Action.fail (.duplicateEmail d.email)

/-- A name that is not blank, or the one known before. -/
def renamed (asserted : Option String) (known : String) : String :=
  match asserted with
  | some name => if name.isEmpty then known else name
  | none => known

/-- A known user under the asserted names. -/
def refreshed (u : User) (a : Assertion) : User :=
  { u with firstName := renamed a.firstName u.firstName
           lastName := renamed a.lastName u.lastName }

/-- Store the asserted names of a known user. -/
def refreshNames (u : User) (a : Assertion) : Action Failure User :=
  Action.save .store (refreshed u a)

/-- The user that is created for an assertion. -/
def newUser (id : Uuid) (role : Role) (a : Assertion) : User where
  id := id
  email := a.normalizedEmail
  firstName := a.firstName.getD ""
  lastName := a.lastName.getD ""
  role := role.slug
  provider := a.provider.name
  externalId := a.externalId

/-- Look up the asserted user. The first `stale` look-ups of a reconciliation see no user, because
another login has not stored it yet. -/
def lookUp (stale : Nat) (a : Assertion) : Action Failure (Option User) :=
  if stale = 0 then Action.findUser .store a.normalizedEmail else pure none

/-- Create the asserted user with a role. If another login has stored the same email in the
meantime, the user that it stored is taken. -/
def createWith (id : Uuid) (stale : Nat) (a : Assertion) (role : Role) : Action Failure User := do
  match (← Action.store).insert (newUser id role a) with
  | .ok s =>
    Action.put s
    Action.report (.userCreated id a.normalizedEmail a.provider)
    return newUser id role a
  | .error _ =>
    match ← lookUp stale a with
    | none => Action.fail (.duplicateEmail a.normalizedEmail)
    | some known =>
      Action.report (.raceLost a.normalizedEmail)
      refreshNames known a

/-- Create the asserted user with the default role, if users are created on demand. -/
def provision (p : Policy) (id : Uuid) (stale : Nat) (a : Assertion) : Action Failure User := do
  let email := a.normalizedEmail
  unless p.provisioning do
    Action.report (.provisioningDisabled email a.provider)
    Action.fail (.provisioningDisabled email)
  match ← Action.findRole .store p.defaultRole with
  | none =>
    Action.report (.defaultRoleMissing p.defaultRole email)
    Action.fail (.defaultRoleMissing p.defaultRole)
  | some role => createWith id stale a role

/-- The account of an asserted identity: the known user under the asserted names, or a new one. -/
def account (p : Policy) (id : Uuid) (stale : Nat) (a : Assertion) : Action Failure User := do
  match ← lookUp stale a with
  | none => provision p id (stale - 1) a
  | some u => refreshNames u a

/-- Give a user the role that a slug names, if it is stored. -/
def applySlug (u : User) (a : Assertion) (slug : String) : Action Failure User := do
  match ← Action.findRole .store slug with
  | none =>
    Action.report (.mappedRoleMissing u.email a.provider slug)
    return u
  | some role =>
    if u.role = role.slug then return u else Action.save .store { u with role := role.slug }

/-- Give a user the role that the mapping finds among the asserted ones. -/
def applyMapped (u : User) (a : Assertion) (m : RoleMapping) : Action Failure User :=
  match m.resolve (a.externalRoles.map Text.ofString) with
  | none => do
    Action.report (.noMappingMatched u.email a.provider a.externalRoles)
    return u
  | some slug =>
    match slug.toString? with
    | none => Action.fail (.slugNotText slug)
    | some slug => applySlug u a slug

/-- Give a user the role that the provider's mapping text yields. -/
def applyMappedRole (p : Policy) (a : Assertion) (u : User) : Action Failure User := do
  if a.externalRoles.isEmpty then return u
  let (m, refusal) ← Action.of
    ((RoleMapping.loadLenient (p.mappings.text a.provider)).mapError Failure.mappingBeyond)
  if let some r := refusal then
    Action.report (.mappingIgnored a.provider.name a.provider.mappingKey r)
  if m.isEmpty then return u else applyMapped u a m

end Reconcile

/-- Bring the local user of an asserted identity up to date and give it back; `id` is for a new
user. -/
def reconcile (p : Policy) (id : Uuid) (stale : Nat) (a : Assertion) :
    Action Reconcile.Failure User := do
  Reconcile.applyMappedRole p a (← Reconcile.account p id stale a)

/-- A known user under the names of a patch. -/
def Reconcile.patched (u : User) (patch : AttributePatch) : User :=
  { u with firstName := renamed patch.firstName u.firstName
           lastName := renamed patch.lastName u.lastName }

/-- Apply a patch to a known user. Only names change; a new email is reported and ignored, and so
are roles. -/
def syncAttributes (u : User) (patch : AttributePatch) : Action Reconcile.Failure User := do
  if let some email := patch.email then
    if !email.isEmpty && Text.lower email != Text.lower u.email then
      Action.report (.emailChangeIgnored u.id u.email email)
  Action.save .store (Reconcile.patched u patch)

end FederatedLogin
