import FederatedLogin.Text.Case
import FederatedLogin.Text.Integer
import FederatedLogin.Text.Percent

/-!
# Database addresses

The address of a database names a kind of database and a driver, and says where the database is.
`Address.read` takes it apart, `Address.text` writes it with its password, and `Address.check` says
whether a pooled connection can be set up from it, which opens nothing yet.
-/

namespace FederatedLogin

/-- Where a database is and how it is reached. -/
structure Address where
  scheme : String
  user : Option String
  password : Option String
  host : Option String
  port : Option Int
  database : Option String
  query : List (String × String)
  deriving DecidableEq, Repr, Inhabited

namespace Address

/-- Why an address cannot be used. -/
inductive Flaw where
  | unreadable
  | badPort (text : String)
  | emptyPort
  | unknownKind
  | crowdedScheme
  | driverMissing (name : String)
  | blockingDriver
  /-- A database file that is said to be on a host. -/
  | fileOnHost
  /-- A database in memory, which has no pool of connections. -/
  | unpooled (settings : List String) (driver pool : String)
  deriving DecidableEq, Repr, Inhabited

/-- The wording of a flaw; some have none. -/
def Flaw.message : Flaw → String
  | badPort text => s!"invalid literal for int() with base 10: {Text.quotedString text}"
  | emptyPort => "Port argument must be an integer or None"
  | crowdedScheme => "too many values to unpack (expected 2)"
  | driverMissing name => s!"No module named '{name}'"
  | unpooled settings driver pool =>
    "Invalid argument(s) " ++ String.intercalate "," (settings.map fun s => s!"'{s}'") ++
      s!" sent to create_engine(), using configuration {driver}/{pool}/Engine.  " ++
      "Please check that the " ++
      "keyword arguments are appropriate for this combination of components."
  | _ => ""

/-! ### Reading -/

/-- Split off a user name and perhaps a password, up to the at sign after them. -/
def splitUser (s : List Char) : Option (String × Option String) × List Char :=
  let run := s.takeWhile fun c => c ≠ ':' && c ≠ '/'
  let rest := s.drop run.length
  let plain : Option (String × Option String) × List Char :=
    let after := run.reverse.takeWhile (· ≠ '@')
    if after.length = run.length then (none, s)
    else
      (some (String.ofList (run.take (run.length - after.length - 1)), none), after.reverse ++ rest)
  match rest with
  | ':' :: more =>
    match more.span (· ≠ '@') with
    | (password, _ :: rest) => (some (String.ofList run, some (String.ofList password)), rest)
    | _ => plain
  | _ => plain

/-- Split off a host; one that holds colons stands in brackets. -/
def splitHost (s : List Char) : Option String × List Char :=
  let run := s.takeWhile fun c => c ≠ '/' && c ≠ '?'
  let bracketed : Option (Option String × List Char) :=
    match run with
    | '[' :: inner =>
      let after := inner.reverse.takeWhile (· ≠ ']')
      let host := inner.take (inner.length - after.length - 1)
      if after.length = inner.length || host.isEmpty then none
      else some (some (String.ofList host), after.reverse ++ s.drop run.length)
    | _ => none
  bracketed.getD <|
    let host := s.takeWhile fun c => c ≠ '/' && c ≠ ':' && c ≠ '?'
    if host.isEmpty then (none, s) else (some (String.ofList host), s.drop host.length)

/-- Cut a list at each separator. -/
def cutAt (sep : Char) (s : List Char) : List (List Char) :=
  s.foldr (fun c acc =>
    if c = sep then [] :: acc
    else match acc with
      | f :: rest => (c :: f) :: rest
      | [] => [[c]]) [[]]

/-- The named values of a query; one without a value does not count. -/
def readQuery (s : List Char) : List (String × String) :=
  (cutAt '&' s).filterMap fun part =>
    match part.span (· ≠ '=') with
    | (_, []) | (_, [_]) => none
    | (name, _ :: value) => some (Text.queryDecode name, Text.queryDecode value)

/-- A character of a scheme. -/
def isSchemeChar (c : Char) : Bool := c.isAlphanum || c = '_' || c = '+'

/-- The number of a port. -/
def readPort : Option (List Char) → Except Flaw (Option Int)
  | none => .ok none
  | some [] => .error .emptyPort
  | some s =>
    match Text.integer? 10 s with
    | some n => .ok (some n)
    | none => .error (.badPort (String.ofList s))

/-- Take an address apart. -/
def read (s : String) : Except Flaw Address := do
  let scheme := s.toList.takeWhile isSchemeChar
  match scheme, s.toList.drop scheme.length with
  | _ :: _, ':' :: '/' :: '/' :: rest =>
    let (user, rest) := splitUser rest
    let (host, rest) := splitHost rest
    let (port, rest) := match rest with
      | ':' :: more =>
        let port := more.takeWhile fun c => c ≠ '/' && c ≠ '?'
        (some port, more.drop port.length)
      | _ => (none, rest)
    let (database, rest) := match rest with
      | '/' :: more =>
        let name := more.takeWhile (· ≠ '?')
        (some (String.ofList name), more.drop name.length)
      | _ => (none, rest)
    let query := match rest with
      | '?' :: more => readQuery (more.takeWhile (· ≠ '\n'))
      | _ => []
    let port ← readPort port
    return ⟨String.ofList scheme, user.map (Text.percentDecode ·.1),
      (user.bind (·.2)).map Text.percentDecode, host, port, database, query⟩
  | _, _ => .error .unreadable

/-! ### Writing -/

/-- The named values of a query in the order of their names. -/
def sortedQuery (q : List (String × String)) : List (String × String) :=
  q.mergeSort fun a b => Text.le (Text.ofString a.1) (Text.ofString b.1)

/-- The address as a text. -/
def text (a : Address) : String :=
  let safe := [' ', '+']
  let user := match a.user with
    | none => ""
    | some u =>
      let password := match a.password with
        | none => ""
        | some p => ":" ++ Text.percentEncode safe p
      Text.percentEncode safe u ++ password ++ "@"
  let host := match a.host with
    | none => ""
    | some h => if h.contains ':' then s!"[{h}]" else h
  let port := match a.port with
    | none => ""
    | some p => s!":{p}"
  let database := match a.database with
    | none => ""
    | some d => "/" ++ d
  let query := if a.query.isEmpty then "" else
    "?" ++ String.intercalate "&" ((sortedQuery a.query).map fun e =>
      Text.queryEncode e.1 ++ "=" ++ Text.queryEncode e.2)
  a.scheme ++ "://" ++ user ++ host ++ port ++ database ++ query

/-! ### Drivers -/

/-- A driver: the module that it needs, and whether that is there. -/
inductive Driver where
  | needs (name : String)
  | waiting
  | blockingFile
  | waitingFile
  deriving DecidableEq, Repr

/-- The drivers of each kind of database; the first one is taken if the scheme names none. -/
def drivers : List (String × List (String × Driver)) :=
  [("postgresql", [("base", .needs "psycopg2"), ("psycopg2", .needs "psycopg2"),
      ("asyncpg", .waiting), ("psycopg", .needs "psycopg"), ("pg8000", .needs "pg8000"),
      ("psycopg2cffi", .needs "psycopg2cffi")]),
    ("sqlite", [("base", .blockingFile), ("pysqlite", .blockingFile), ("aiosqlite", .waitingFile)]),
    ("mysql", [("base", .needs "MySQLdb"), ("mysqldb", .needs "MySQLdb"),
      ("pymysql", .needs "pymysql"), ("aiomysql", .needs "aiomysql"), ("asyncmy", .needs "asyncmy"),
      ("pyodbc", .needs "pyodbc")]),
    ("mariadb", [("base", .needs "MySQLdb"), ("mysqldb", .needs "MySQLdb"),
      ("pymysql", .needs "pymysql"), ("aiomysql", .needs "aiomysql"), ("asyncmy", .needs "asyncmy"),
      ("mariadbconnector", .needs "mariadb"), ("pyodbc", .needs "pyodbc")]),
    ("oracle", [("base", .needs "cx_Oracle"), ("cx_oracle", .needs "cx_Oracle"),
      ("oracledb", .needs "oracledb")]),
    ("mssql", [("base", .needs "pyodbc"), ("pyodbc", .needs "pyodbc"),
      ("pymssql", .needs "pymssql"), ("aioodbc", .needs "pyodbc")])]

/-- The driver that a scheme names. -/
def driver (scheme : String) : Except Flaw Driver :=
  let find (kind name : String) : Except Flaw Driver :=
    match (drivers.lookup kind).bind (·.lookup name) with
    | some d => .ok d
    | none => .error .unknownKind
  match cutAt '+' scheme.toList with
  | [kind] => find (String.ofList kind) "base"
  | [kind, name] => find (String.ofList kind) (String.ofList name)
  | _ => .error .crowdedScheme

/-- The address is one of a file. -/
def isFile (a : Address) : Bool :=
  match a.database with
  | none | some "" | some ":memory:" => false
  | some _ => a.query.lookup "mode" ≠ some "memory"

/-- A file is on no host. -/
def isLocal (a : Address) : Bool :=
  a.user.isNone && a.password.isNone && a.host.isNone && a.port.isNone

/-- Check that connections can be set up from an address. -/
def check (a : Address) : Except Flaw Unit := do
  match ← driver a.scheme with
  | .needs name => .error (.driverMissing name)
  | .waiting => .ok ()
  | .blockingFile =>
    if !a.isLocal then .error .fileOnHost
    else if a.isFile then .error .blockingDriver
    else .error (.unpooled ["pool_timeout"] "SQLiteDialect_pysqlite" "SingletonThreadPool")
  | .waitingFile =>
    if !a.isLocal then .error .fileOnHost
    else if a.isFile then .ok ()
    else .error (.unpooled ["pool_size", "pool_timeout"] "SQLiteDialect_aiosqlite" "StaticPool")

end Address

end FederatedLogin
