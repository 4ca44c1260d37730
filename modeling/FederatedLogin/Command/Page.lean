/-!
# Pages of the command line

Each command and each group of commands has a page: its name, its options, and its help. The page
also says how its arguments are read: a group stops at the first argument that is no option, since
what follows belongs to the command.
-/

namespace FederatedLogin.Command

/-- A command or a group of commands. -/
inductive Page where
  | top | login | serve | roles | rolesList | rolesSeed | mapping | mappingShow
  deriving DecidableEq, Repr

namespace Page

/-- The words that lead to a page. -/
def path : Page → String
  | top => "idbridge"
  | login => "idbridge login"
  | serve => "idbridge serve"
  | roles => "idbridge roles"
  | rolesList => "idbridge roles list"
  | rolesSeed => "idbridge roles seed"
  | mapping => "idbridge mapping"
  | mappingShow => "idbridge mapping show"

/-- The page is a group of commands. -/
def isGroup : Page → Bool
  | top | roles | mapping => true
  | _ => false

/-- What a page takes besides options. -/
def operands : Page → String
  | login => " EMAIL"
  | rolesSeed => " [SLUGS]..."
  | p => if p.isGroup then " COMMAND [ARGS]..." else ""

/-- The line that shows how a page is used. -/
def usage (p : Page) : String := "Usage: " ++ p.path ++ " [OPTIONS]" ++ p.operands

/-- The options that take a value. -/
def valued : Page → List String
  | top => ["--api-url"]
  | login => ["--password"]
  | serve => ["--host", "--port"]
  | mappingShow => ["--provider"]
  | _ => []

/-- The options that take no value. -/
def flags : Page → List String
  | top => ["--version", "--help"]
  | serve => ["--reload", "--help"]
  | _ => ["--help"]

/-- The commands of a group. -/
def commands : Page → List (String × Page)
  | top => [("login", login), ("mapping", mapping), ("roles", roles), ("serve", serve)]
  | roles => [("list", rolesList), ("seed", rolesSeed)]
  | mapping => [("show", mappingShow)]
  | _ => []

/-- What a page is about. -/
def about : Page → List String
  | top =>
    ["  idbridge — external identity reconciliation and JIT provisioning.", "", "  Quick start:",
      "    idbridge roles seed", "    idbridge mapping show",
      "    idbridge login jane.doe@example.com", "", "  API docs: http://localhost:8000/docs"]
  | login => ["  Log in through the API and show the reconciled local user."]
  | serve => ["  Start the idbridge API server."]
  | roles => ["  Manage local roles."]
  | rolesList => ["  List local roles."]
  | rolesSeed => ["  Create missing roles (defaults to SEED_ROLES plus the default role)."]
  | mapping => ["  Inspect external-role → local-role mappings."]
  | mappingShow => ["  Parse and print each provider's role mapping. Exits 1 if any is invalid."]

/-- The options, explained. -/
def optionHelp : Page → List String
  | top =>
    ["  --version       Show the version and exit.",
      "  --api-url TEXT  Base URL of the idbridge API server  [default:",
      "                  http://localhost:8000]",
      "  --help          Show this message and exit."]
  | login => ["  --password TEXT", "  --help           Show this message and exit."]
  | serve =>
    ["  --host TEXT     Bind host  [default: 0.0.0.0]",
      "  --port INTEGER  Bind port  [default: 8000]",
      "  --reload        Enable auto-reload (dev mode)",
      "  --help          Show this message and exit."]
  | mappingShow =>
    ["  --provider [postgres|xsuaa|oidc]",
      "                                  Only show these providers (repeatable)",
      "  --help                          Show this message and exit."]
  | _ => ["  --help  Show this message and exit."]

/-- The commands of a group, explained. -/
def commandHelp : Page → List String
  | top =>
    ["  login    Log in through the API and show the reconciled local user.",
      "  mapping  Inspect external-role → local-role mappings.",
      "  roles    Manage local roles.",
      "  serve    Start the idbridge API server."]
  | roles =>
    ["  list  List local roles.",
      "  seed  Create missing roles (defaults to SEED_ROLES plus the default role)."]
  | mapping => ["  show  Parse and print each provider's role mapping."]
  | _ => []

/-- The help of a page. -/
def help (p : Page) : List String :=
  [p.usage, ""] ++ p.about ++ ["", "Options:"] ++ p.optionHelp ++
    if p.isGroup then ["", "Commands:"] ++ p.commandHelp else []

end Page

end FederatedLogin.Command
