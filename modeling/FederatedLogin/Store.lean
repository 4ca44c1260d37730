import FederatedLogin.Rendered
import FederatedLogin.Text.Case
import FederatedLogin.Uuid

/-!
# The store of users and roles

A store holds roles, known by their slug, and users, known by an identifier and by their email. An
insertion or change that would break a constraint is refused and leaves the store as it was: no two
users share an identifier, an email, or an email in lower case, and every user holds a stored role.
The store itself lower-cases ASCII letters only.
-/

namespace FederatedLogin

/-- A local role. -/
structure Role where
  slug : String
  displayName : String
  deriving DecidableEq, Repr, Inhabited

namespace Role

/-- The role that is created for a slug: it is displayed as its words in title case. -/
def ofSlug (slug : String) : Role :=
  ⟨slug, Text.title (String.ofList (slug.toList.map fun c => if c = '_' then ' ' else c))⟩

/-- A role as diagnostics show it. -/
def shown (r : Role) : String := s!"<Role {Text.quotedString r.slug}>"

end Role

/-- A local user; the role is given by its slug. -/
structure User where
  id : Uuid
  email : String
  firstName : String := ""
  lastName : String := ""
  role : String
  /-- The hash of the local password; without one, the user cannot log in locally. -/
  hashedPassword : Option String := none
  isActive : Bool := true
  provider : String := "local"
  externalId : Option String := none
  deriving DecidableEq, Repr, Inhabited

/-- A user as diagnostics show it. -/
def User.shown (u : User) : String :=
  s!"<User {Text.quotedString u.email} provider={Text.quotedString u.provider}>"

/-- What a new user is to be; without a role it cannot be stored. -/
structure Draft where
  id : Uuid
  email : String
  firstName : String := ""
  lastName : String := ""
  role : Option String
  hashedPassword : Option String := none
  isActive : Bool := true
  provider : String := "local"
  externalId : Option String := none
  deriving DecidableEq, Repr, Inhabited

/-- The user that a draft with a role describes. -/
def Draft.user? (d : Draft) : Option User :=
  d.role.map fun role => ⟨d.id, d.email, d.firstName, d.lastName, role, d.hashedPassword,
    d.isActive, d.provider, d.externalId⟩

/-- The users and roles, each in the order of their creation. -/
structure Store where
  roles : List Role := []
  users : List User := []
  deriving DecidableEq, Repr, Inhabited

namespace Store

/-- Why the store refuses an operation. -/
inductive Fault where
  /-- The tables are missing. -/
  | noTables
  /-- A constraint would be broken. -/
  | conflict
  /-- More than one row where at most one is expected. -/
  | ambiguous
  deriving DecidableEq, Repr, Inhabited

/-- The only item of a list, if it has one. -/
def oneOrNone {α : Type} : List α → Except Fault (Option α)
  | [] => .ok none
  | [a] => .ok (some a)
  | _ => .error .ambiguous

/-! ### Looking up -/

/-- A stored email is the one that is looked for. -/
def answers (email : String) (u : User) : Bool := Text.asciiLower u.email == Text.lower email

/-- The user with an email, in any case of letters. -/
def findByEmail (s : Store) (email : String) : Except Fault (Option User) :=
  oneOrNone (s.users.filter (answers email))

/-- The user with an identifier. -/
def findById (s : Store) (id : Uuid) : Option User := s.users.find? (·.id == id)

/-- The role with a slug. -/
def findRole (s : Store) (slug : String) : Except Fault (Option Role) :=
  oneOrNone (s.roles.filter (·.slug == slug))

/-- The roles in the order of their slugs. -/
def sortedRoles (s : Store) : List Role :=
  s.roles.mergeSort fun a b => Text.le (Text.ofString a.slug) (Text.ofString b.slug)

/-- The users in the order of their emails. -/
def sortedUsers (s : Store) : List User :=
  s.users.mergeSort fun a b => Text.le (Text.ofString a.email) (Text.ofString b.email)

/-! ### Changing -/

/-- Two users cannot both be stored. -/
def clashes (u v : User) : Bool :=
  u.id == v.id || u.email == v.email || Text.asciiLower u.email == Text.asciiLower v.email

/-- A user holds a stored role. -/
def holdsRole (s : Store) (u : User) : Bool := s.roles.any (·.slug == u.role)

/-- Add a user. -/
def insert (s : Store) (u : User) : Except Fault Store :=
  if s.holdsRole u && !s.users.any (clashes u) then .ok { s with users := s.users ++ [u] }
  else .error .conflict

/-- Add the user that a draft describes. -/
def insertDraft (s : Store) (d : Draft) : Except Fault (User × Store) :=
  match d.user? with
  | none => .error .conflict
  | some u => (s.insert u).map (u, ·)

/-- The store with a user in the place of the stored one with the same identifier. -/
def replace (s : Store) (u : User) : Store :=
  { s with users := s.users.map fun v => if v.id = u.id then u else v }

/-- Put a user in the place of the stored one with the same identifier. -/
def update (s : Store) (u : User) : Except Fault Store :=
  if s.holdsRole u && !s.users.any fun v => v.id != u.id && clashes u v then .ok (s.replace u)
  else .error .conflict

/-- Add the role of a slug unless it is there, also if it was added for an earlier slug; the added
roles are collected, the last one first. -/
def ensureRole (acc : Store × List Role) (slug : String) : Store × List Role :=
  if acc.1.roles.any (·.slug == slug) then acc
  else ({ acc.1 with roles := acc.1.roles ++ [Role.ofSlug slug] }, Role.ofSlug slug :: acc.2)

/-- Add the missing roles of some slugs; they are given back in order. -/
def ensureRoles (s : Store) (slugs : List String) : Store × List Role :=
  let (s, added) := slugs.foldl ensureRole (s, [])
  (s, added.reverse)

end Store

end FederatedLogin
