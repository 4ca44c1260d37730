/-!
# The schema of the store

The two tables of the store in SQL. There are two ways to create them: from the model, with a name
for every constraint, and by the migration, which gives defaults to columns and names only its
indexes. Both make emails unique, also regardless of the case of ASCII letters, and slugs unique.
-/

namespace FederatedLogin.Database

/-- A kind of database. -/
inductive Dialect where
  | sqlite | postgresql
  deriving DecidableEq, Repr

/-- The dialect with a name. -/
def Dialect.ofName? (s : String) : Option Dialect :=
  if s = "sqlite" then some .sqlite else if s = "postgresql" then some .postgresql else none

/-- The type of a column. -/
inductive ColumnType where
  /-- A text of at most so many characters. -/
  | name (width : Nat)
  | text | identifier | flag | time
  deriving DecidableEq, Repr

/-- The type in SQL. -/
def ColumnType.sql (d : Dialect) : ColumnType → String
  | name width => s!"VARCHAR({width})"
  | text => "TEXT"
  | identifier => match d with
    | .sqlite => "CHAR(32)"
    | .postgresql => "UUID"
  | flag => "BOOLEAN"
  | time => match d with
    | .sqlite => "DATETIME"
    | .postgresql => "TIMESTAMP WITH TIME ZONE"

/-- The value of a column that is not given. -/
inductive Default where
  | text (s : String)
  | yes | now
  deriving DecidableEq, Repr

/-- The default in SQL. -/
def Default.sql (d : Dialect) : Default → String
  | text s => s!"'{s}'"
  | yes => "true"
  | now => match d with
    | .sqlite => "CURRENT_TIMESTAMP"
    | .postgresql => "now()"

/-- A column of a table. -/
structure Field where
  name : String
  type : ColumnType
  required : Bool := true
  default : Option Default := none
  deriving DecidableEq, Repr

/-- The column in SQL. -/
def Field.sql (d : Dialect) (c : Field) : String :=
  let default := match c.default with
    | some v => s!" DEFAULT {v.sql d}"
    | none => ""
  s!"{c.name} {c.type.sql d}{default}" ++ if c.required then " NOT NULL" else ""

/-- A table with its constraints in SQL. -/
structure Relation where
  name : String
  fields : List Field
  constraints : List String
  deriving DecidableEq, Repr

/-- An index; it may be on an expression. -/
structure Index where
  name : String
  table : String
  expression : String
  unique : Bool
  deriving DecidableEq, Repr

/-- The statement that creates an index. -/
def Index.sql (i : Index) : String :=
  let kind := if i.unique then "UNIQUE INDEX" else "INDEX"
  s!"CREATE {kind} {i.name} ON {i.table} ({i.expression})"

/-- Indented lines with a comma and a blank after each but the last. -/
def itemLines (indent : String) : List String → List String
  | [] => []
  | [s] => [indent ++ s]
  | s :: rest => (indent ++ s ++ ", ") :: itemLines indent rest

/-- The lines that create a table. -/
def Relation.sql (d : Dialect) (indent : String) (r : Relation) : List String :=
  [s!"CREATE TABLE {r.name} ("] ++
    itemLines indent (r.fields.map (·.sql d) ++ r.constraints) ++ [")"]

/-- The times of creation and of the last change. -/
def stamps : List Field :=
  [⟨"created_at", .time, true, some .now⟩, ⟨"updated_at", .time, true, some .now⟩]

/-- The index that makes emails unique regardless of the case of letters. -/
def emailIndex : Index := ⟨"uq_users_email_lower", "users", "lower(email)", true⟩

/-! ### The model -/

namespace Model

/-- The table of roles. -/
def roles : Relation where
  name := "roles"
  fields :=
    [⟨"slug", .name 100, true, none⟩, ⟨"display_name", .name 255, true, none⟩,
      ⟨"id", .identifier, true, none⟩] ++ stamps
  constraints := ["CONSTRAINT pk_roles PRIMARY KEY (id)"]

/-- The table of users. -/
def users : Relation where
  name := "users"
  fields :=
    [⟨"email", .name 255, true, none⟩, ⟨"first_name", .name 100, true, none⟩,
      ⟨"last_name", .name 100, true, none⟩, ⟨"hashed_password", .text, false, none⟩,
      ⟨"role_id", .identifier, true, none⟩, ⟨"is_active", .flag, true, none⟩,
      ⟨"auth_provider", .name 20, true, none⟩, ⟨"external_user_id", .name 255, false, none⟩,
      ⟨"id", .identifier, true, none⟩] ++ stamps
  constraints :=
    ["CONSTRAINT pk_users PRIMARY KEY (id)",
      "CONSTRAINT fk_users_role_id_roles FOREIGN KEY(role_id) REFERENCES roles (id)"]

/-- The indexes, in the order of their statements. -/
def indexes : List Index :=
  [⟨"ix_users_role_id", "users", "role_id", false⟩, ⟨"ix_roles_slug", "roles", "slug", true⟩,
    ⟨"ix_users_email", "users", "email", true⟩, emailIndex]

/-- The lines that create a table, and the statements that create its indexes. -/
def create (d : Dialect) (r : Relation) : List String × List String :=
  (r.sql d "\t", (indexes.filter (·.table == r.name)).map (·.sql))

end Model

/-! ### The migration -/

namespace Migration

/-- The table of roles. -/
def roles : Relation where
  name := "roles"
  fields :=
    [⟨"id", .identifier, true, none⟩, ⟨"slug", .name 100, true, none⟩,
      ⟨"display_name", .name 255, true, some (.text "")⟩] ++ stamps
  constraints := ["PRIMARY KEY (id)", "UNIQUE (slug)"]

/-- The table of users. -/
def users : Relation where
  name := "users"
  fields :=
    [⟨"id", .identifier, true, none⟩, ⟨"email", .name 255, true, none⟩,
      ⟨"first_name", .name 100, true, some (.text "")⟩,
      ⟨"last_name", .name 100, true, some (.text "")⟩, ⟨"hashed_password", .text, false, none⟩,
      ⟨"role_id", .identifier, true, none⟩, ⟨"is_active", .flag, true, some .yes⟩,
      ⟨"auth_provider", .name 20, true, some (.text "local")⟩,
      ⟨"external_user_id", .name 255, false, none⟩] ++ stamps
  constraints :=
    ["PRIMARY KEY (id)", "UNIQUE (email)", "FOREIGN KEY(role_id) REFERENCES roles (id)"]

/-- The indexes of a table. -/
def indexes (r : Relation) : List Index :=
  [⟨"ix_roles_slug", "roles", "slug", false⟩, ⟨"ix_users_email", "users", "email", false⟩,
    ⟨"ix_users_role_id", "users", "role_id", false⟩, emailIndex].filter (·.table == r.name)

/-- The lines of a statement, ended, and a blank line. -/
def statement : List String → List String
  | [] => []
  | [s] => [s ++ ";", ""]
  | s :: rest => s :: statement rest

/-- The lines that create the tables. -/
def upgrade (d : Dialect) : List String :=
  ([roles, users].flatMap fun r =>
    statement (r.sql d "    ") ++ (indexes r).flatMap fun i => statement [i.sql]) ++ [""]

/-- The lines that drop the tables. -/
def downgrade : List String :=
  ([users, roles].flatMap fun r => statement [s!"DROP TABLE {r.name}"]) ++ [""]

end Migration

end FederatedLogin.Database
