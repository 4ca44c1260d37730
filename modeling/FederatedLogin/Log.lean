import FederatedLogin.Datum

/-!
# Log entries

What the program reports while it works is data: an operation returns its log entries, and the
outer layer writes them. An entry is an event with a context of named values, or a plain line.
-/

namespace FederatedLogin

/-- The severity of a log entry. -/
inductive Level where
  | debug | info | warning | error | critical
  deriving DecidableEq, Repr, Inhabited

namespace Level

/-- Every level, the least severe first. -/
def all : List Level := [debug, info, warning, error, critical]

/-- The rank of a level; a greater one is more severe. -/
def rank : Level → Nat
  | debug => 10
  | info => 20
  | warning => 30
  | error => 40
  | critical => 50

/-- The name of a level inside an event. -/
def name : Level → String
  | debug => "debug"
  | info => "info"
  | warning => "warning"
  | error => "error"
  | critical => "critical"

/-- The name of a level in configuration and on plain lines. -/
def upperName : Level → String
  | debug => "DEBUG"
  | info => "INFO"
  | warning => "WARNING"
  | error => "ERROR"
  | critical => "CRITICAL"

/-- The level with a configuration name. -/
def ofUpperName? (s : String) : Option Level := all.find? (·.upperName == s)

end Level

/-- One log entry. -/
inductive LogEntry where
  | event (level : Level) (logger event : String) (context : List (String × Datum))
  | line (level : Level) (logger text : String)
  deriving Inhabited

end FederatedLogin
