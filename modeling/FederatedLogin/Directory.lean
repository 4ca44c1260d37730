import FederatedLogin.Assertion
import FederatedLogin.Database.Address
import FederatedLogin.Directory.RoleNames
import FederatedLogin.Directory.Table
import FederatedLogin.Notice
import FederatedLogin.Password
import FederatedLogin.Settings

/-!
# The external user directory

Users can live in a table of another database, whose name and whose columns for email and password
hash are configured. `Directory.find` looks a user up by email, in any case of letters, and
`Directory.authenticate` turns a row whose password fits into an assertion. Names are checked when
the directory is set up, since they become part of a query.
-/

namespace FederatedLogin

/-- A directory: where its table is and which columns hold email and password hash. -/
structure Directory where
  schema : Option String
  table : String
  emailColumn : String
  passwordColumn : String
  deriving DecidableEq, Repr, Inhabited

namespace Directory

/-! ### Names -/

/-- A letter, digit or underscore. -/
def isNameChar (c : Char) : Bool := c.isAlphanum || c = '_'

/-- The characters are those of a name, perhaps with a line end after them. -/
def isNameTail : List Char → Bool
  | [] => true
  | ['\n'] => true
  | c :: rest => isNameChar c && isNameTail rest

/-- The text is a name: it starts with a letter or underscore. -/
def isName (s : String) : Bool :=
  match s.toList with
  | c :: rest => isNameChar c && !c.isDigit && isNameTail rest
  | [] => false

/-- What is wrong with the configuration of a directory. -/
structure BadName where
  what : String
  value : String
  deriving DecidableEq, Repr, Inhabited

/-- The wording of a bad name. -/
def BadName.message (b : BadName) : String :=
  s!"Invalid {b.what} name in Postgres auth configuration: {Text.quotedString b.value}"

/-- Check a name. -/
def checkName (value what : String) : Except BadName String :=
  if isName value then .ok value else .error ⟨what, value⟩

/-- Split a text at its last dot; without one, all of it comes after. -/
def splitAtLastDot (s : String) : String × String :=
  let after := s.toList.reverse.takeWhile (· ≠ '.')
  (String.ofList (s.toList.take (s.length - after.length - 1)), String.ofList after.reverse)

/-- The directory with the given names. -/
def ofNames (table emailColumn passwordColumn : String) : Except BadName Directory := do
  let (schema, name) := splitAtLastDot table
  let schema ← if schema.isEmpty then .ok none else (checkName schema "schema").map some
  return ⟨schema, ← checkName name "table", ← checkName emailColumn "email column",
    ← checkName passwordColumn "password column"⟩

/-! ### Setting up -/

/-- The address of a directory, with the driver that does not block. -/
def addressText (dsn : String) : String :=
  match ["postgresql://", "postgres://"].find? (·.toList.isPrefixOf dsn.toList) with
  | some scheme => "postgresql+asyncpg://" ++ String.ofList (dsn.toList.drop scheme.length)
  | none => dsn

/-- Why the configured directory cannot be set up. -/
inductive SetupError where
  | address (flaw : Address.Flaw)
  | name (bad : BadName)
  deriving DecidableEq, Repr

/-- What the settings say about a directory. -/
inductive Setup where
  | off
  | noAddress
  /-- The directory, the address of its database, and the number of the pool of connections. -/
  | on (pool : Nat) (address : Address) (directory : Directory)
  deriving DecidableEq, Repr

/-- The pools of connections opened so far: the text that each was opened for, the earliest
first. -/
abbrev Pools := List String

/-- The address in a text, with a pool for it: the one that is there, or a new one. -/
def openPool (pools : Pools) (text : String) : Except Address.Flaw (Address × Pools) := do
  let address ← Address.read text
  if pools.contains text then return (address, pools)
  address.check
  return (address, pools ++ [text])

/-- Set up the directory of the settings. A pool that was opened stays open even if the names are
bad. -/
def ofSettings (pools : Pools) (s : Settings) : Except SetupError Setup × Pools :=
  if s.postgresEnabled then
    match s.postgresDsn.filter (!·.isEmpty) with
    | none => (.ok .noAddress, pools)
    | some dsn =>
      let text := addressText dsn
      match openPool pools text with
      | .error flaw => (.error (.address flaw), pools)
      | .ok (address, pools) =>
        match ofNames s.postgresTable s.postgresEmailColumn s.postgresPasswordColumn with
        | .error bad => (.error (.name bad), pools)
        | .ok d => (.ok (.on (pools.idxOf text) address d), pools)
  else (.ok .off, pools)

/-- What setting up the directory reports. -/
def Setup.notices : Setup → List Notice
  | noAddress => [.directoryAddressMissing]
  | _ => []

/-! ### Looking up -/

/-- A user of the directory; cells other than id and roles are kept as they are. -/
structure Entry where
  id : Text
  email : Datum
  passwordHash : Datum
  firstName : Datum
  lastName : Datum
  roles : List Text
  deriving Inhabited

/-- Why the directory does not answer. -/
inductive Failure where
  | queryFailed
  | unreadableRow
  | invalidIdentity (id : Text)
  /-- The role names nest too deep to be read. -/
  | rolesTooDeep
  | hashNotText (e : Password.NotText)
  deriving DecidableEq, Repr

/-- The wording of a failure. -/
def Failure.message : Failure → String
  | queryFailed => "Postgres directory query failed"
  | unreadableRow => "Unreadable Postgres directory row"
  | invalidIdentity id =>
    s!"Postgres directory row for user {Text.quoted id} is not a valid identity"
  | rolesTooDeep => "roles nest too deep"
  | hashNotText e => e.message

/-- Where the columns of a user are. -/
structure Columns where
  id : Nat
  email : Nat
  passwordHash : Nat
  firstName : Nat
  lastName : Nat
  roles : Nat

/-- The columns of a user in a table. -/
def columns? (d : Directory) (t : Table) : Option Columns := do
  return ⟨← t.column? "id", ← t.column? d.emailColumn, ← t.column? d.passwordColumn,
    ← t.column? "first_name", ← t.column? "last_name", ← t.column? "roles"⟩

/-- The table of the directory, in a database. -/
def table? (d : Directory) (tables : List Table) : Option Table :=
  if d.schema.all fun s => sameName mainSchema (understood s) then
    tables.find? fun t => sameName t.name (understood d.table)
  else none

/-- A cell of a row. -/
def cell (row : List Datum) (i : Nat) : Datum := row.getD i .null

/-- A cell, or the empty text in place of an empty one. -/
def cellOrBlank (row : List Datum) (i : Nat) : Datum :=
  if (cell row i).truthy then cell row i else .str ""

/-- The user of a row. -/
def entryOf (c : Columns) (row : List Datum) : Except Failure Entry :=
  match roleNames (cell row c.roles) with
  | .ok roles => .ok ⟨(cell row c.id).display, cell row c.email, cell row c.passwordHash,
      cellOrBlank row c.firstName, cellOrBlank row c.lastName, roles⟩
  | .error .tooDeep => .error .rolesTooDeep
  | .error (.hugeInteger _) => .error .unreadableRow

/-- Look a user up by email: the first row whose email has the same lower-case form. -/
def find (d : Directory) (tables : List Table) (email : String) : Except Failure (Option Entry) :=
  match (d.table? tables).bind fun t => (d.columns? t).map (t, ·) with
  | none => .error .queryFailed
  | some (t, c) =>
    match t.rows.find? fun row => lowered (cell row c.email) == some (Text.lower email) with
    | none => .ok none
    | some row => (entryOf c row).map some

/-- A cell, or null in place of an empty one. -/
def orNull (d : Datum) : Datum := if d.truthy then d else .null

/-- The assertion that a directory entry makes. -/
def Entry.assertion (e : Entry) : Except Failure Assertion :=
  let fields : List (String × Datum) :=
    [("email", e.email), ("first_name", orNull e.firstName), ("last_name", orNull e.lastName),
      ("external_user_id", .text e.id), ("external_roles", .list (e.roles.map .text)),
      ("auth_provider", .str Provider.postgres.name)]
  (Assertion.ofEntries (fields.map fun f => (Text.ofString f.1, f.2))).mapError fun _ =>
    .invalidIdentity e.id

/-- The assertion about a user whose password fits; nothing for an unknown user and for a password
that does not fit. -/
def authenticate (d : Directory) (tables : List Table) (email password : String) :
    Except Failure (Option Assertion) := do
  match ← d.find tables email with
  | none => return none
  | some e =>
    if ← (Password.checkStored password e.passwordHash).mapError .hashNotText then
      return some (← e.assertion)
    else return none

end Directory

end FederatedLogin
