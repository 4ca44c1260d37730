import FederatedLogin.Notice
import FederatedLogin.Store

/-!
# Actions on the store

An action works on a store and reports notices; it ends with a result or an error. What it has
stored and reported before an error stays.
-/

namespace FederatedLogin

/-- A store and what has been reported, the earliest first. -/
structure Progress where
  store : Store
  notices : List Notice := []

/-- An action on a store. -/
abbrev Action (ε α : Type) := ExceptT ε (StateM Progress) α

namespace Action

variable {ε α : Type}

/-- End with an error. -/
def fail (e : ε) : Action ε α := ExceptT.mk (pure (.error e))

/-- End with an error, or go on with a value. -/
def of (r : Except ε α) : Action ε α := ExceptT.mk (pure r)

/-- Report a notice. -/
def report (n : Notice) : Action ε Unit :=
  modify fun p => { p with notices := p.notices ++ [n] }

/-- The store as it is. -/
def store : Action ε Store := return (← get).store

/-- Change the store. -/
def put (s : Store) : Action ε Unit := modify fun p => { p with store := s }

/-- Run an action on a store. -/
def start (a : Action ε α) (s : Store) : Except ε α × Progress := (a.run).run ⟨s, []⟩

/-- Run an action on the tables, if they exist. -/
def startOn (a : Action ε α) (missing : ε) : Option Store → Except ε α × Option Store × List Notice
  | some s => let (r, p) := a.start s; (r, some p.store, p.notices)
  | none => (.error missing, none, [])

/-- Look a user up by email. -/
def findUser (lift : Store.Fault → ε) (email : String) : Action ε (Option User) := do
  of (((← store).findByEmail email).mapError lift)

/-- Look a role up. -/
def findRole (lift : Store.Fault → ε) (slug : String) : Action ε (Option Role) := do
  of (((← store).findRole slug).mapError lift)

/-- Store a changed user. -/
def save (lift : Store.Fault → ε) (u : User) : Action ε User := do
  put (← of (((← store).update u).mapError lift))
  return u

/-- Add the missing roles of some slugs. -/
def ensureRoles (slugs : List String) : Action ε (List Role) := do
  let (s, added) := (← store).ensureRoles slugs
  put s
  unless added.isEmpty do report (.rolesCreated (added.map (·.slug)))
  return added

end Action

end FederatedLogin
