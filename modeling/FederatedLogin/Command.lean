import FederatedLogin.Command.Arguments
import FederatedLogin.Command.Display
import FederatedLogin.Service
import FederatedLogin.Startup

/-!
# The commands

What each command does, prints, and exits with. Commands on roles work on the store; the login sends
one request to the service and shows its answer; the display of role mappings reads the settings
only, and goes on after a mapping that is refused.
-/

namespace FederatedLogin.Command

open FederatedLogin.Terminal Printing

/-! ### Roles -/

/-- Create the missing roles: the given ones, or else the ones that a start would create. -/
def seedRoles {ε : Type} (s : Settings) (slugs : List String) : Action ε (List Role) :=
  Action.ensureRoles (if slugs.isEmpty then s.wantedRoles else slugs)

/-- Say which roles were created. -/
def showSeeded (created : List Role) : Printing Nat := do
  if created.isEmpty then say (print (Text.ofString "[dim]All roles already exist[/dim]"))
  else
    let slugs := ", ".intercalate (created.map (·.slug))
    say (print (Text.ofString s!"[green]Created:[/green] {slugs}"))
  return 0

/-- Show the stored roles. -/
def showRoles (s : Settings) (store : Store) : Printing Nat := do
  say (rolesTable store.sortedRoles s.defaultRoleSlug).print
  return 0

/-! ### Role mappings -/

/-- Show the role mapping of a provider; the result says whether it is accepted. -/
def showMapping (s : Settings) (p : Provider) : Printing Bool := do
  match RoleMapping.load (some (s.mappings.text p)) with
  | .ok [] =>
    say (print (Text.ofString s!"[dim]{providerState s p}: no role mapping configured[/dim]"))
    return true
  | .ok m =>
    say (mappingTable s p m).print
    return true
  | .error (.refused r) =>
    let state := if s.enabled p then "enabled" else "disabled"
    say (print (Text.ofString
      s!"[red]{p.name}[/red] ({state}): {p.mappingKey} is invalid: {r.message}"))
    return false
  | .error (.beyond limit) => crash (.mapping limit)

/-- Show the role mappings of some providers in order; the result says whether all are accepted. -/
def showEach (s : Settings) : List Provider → Printing Bool
  | [] => return true
  | p :: rest => do
    let accepted ← showMapping s p
    let others ← showEach s rest
    return accepted && others

/-- Show the role mappings of the selected providers, or of all. The exit code is 1 if one of them
is refused. -/
def showMappings (s : Settings) (selected : List Provider) : Printing Nat := do
  let accepted ← showEach s (if selected.isEmpty then Provider.all else selected)
  return if accepted then 0 else 1

/-! ### Login -/

/-- Lines of input. -/
def inputLines (input : String) : List String :=
  let rec go (got : List Char) : List Char → List String
    | [] => if got.isEmpty then [] else [String.ofList got.reverse]
    | '\r' :: '\n' :: rest => String.ofList got.reverse :: go [] rest
    | '\r' :: rest => String.ofList got.reverse :: go [] rest
    | '\n' :: rest => String.ofList got.reverse :: go [] rest
    | c :: rest => go (c :: got) rest
  go [] input.toList

/-- Ask for the password until a line of input is not empty; none if the input ends before. -/
def askPassword : List String → Printing (Option String)
  | [] => do
    lines ["Password: ", "", "Aborted!"]
    return none
  | "" :: rest => do
    lines ["Password: "]
    askPassword rest
  | password :: _ => do
    lines ["Password: "]
    return some password

/-- A request to the service, with its form and the seconds to wait for an answer. -/
structure Post where
  url : String
  form : List (String × String)
  patience : Nat
  deriving DecidableEq, Repr

/-- The request of a login. -/
def loginPost (apiUrl email password : String) : Post :=
  ⟨apiUrl ++ "/api/v1/auth/login", [("username", email), ("password", password)], 10⟩

/-- The request as the service sees it: its path begins at the third slash of the address. -/
def Post.request (p : Post) : Http.Request :=
  let host := (p.url.toList.dropWhile (· ≠ '/')).drop 2
  { method := "POST", path := String.ofList (host.dropWhile (· ≠ '/')), form := p.form }

/-- What comes back from the service. -/
inductive Reply where
  | noConnection
  | answer (status : Nat) (body : Datum)

/-- A response as it comes back. -/
def Reply.ofResponse (r : Http.Response) : Reply :=
  .answer r.status (match r.body with
    | .json d => d
    | _ => .null)

/-- Make the request of a login ready, with a prompt for a password that was not given. If there is
no request, the result is the exit code. -/
def prepareLogin (apiUrl email : String) (password : Option String) (extra input : List String) :
    Printing (Except Nat Post) := do
  let password ← match password with
    | some p => pure (some p)
    | none => askPassword input
  match password with
  | none => return .error 1
  | some p =>
    if extra.isEmpty then return .ok (loginPost apiUrl email p)
    else
      lines ((UsageFault.extraArguments extra).report .login)
      return .error 2

/-- Show what came back. -/
def showReply (apiUrl : String) (r : Reply) : Printing Nat := do
  match r with
  | .noConnection =>
    say (print (Text.ofString (s!"[red]Cannot connect to API at {apiUrl}.[/red] " ++
      "Is the server running? (idbridge serve)")))
    return 1
  | .answer 200 body =>
    match body with
    | .record _ =>
      match body.field? "user" with
      | some u => showUser u
      | none => crash .userMissing
    | d => crash (.noKeys d)
    return 0
  | .answer status body =>
    let detail ← match body with
      | .record _ => pure ((body.field? "detail").getD (.int status))
      | d => crash (.noFields d.typeName)
    say (print (Text.ofString "[red]Login failed:[/red] " ++ detail.display))
    return 1

/-! ### Texts -/

/-- The lines and the exit code of a command line that asks for no work. -/
def answerAtOnce? : Invocation → Option (List String × Nat)
  | .help p => some (p.help, 0)
  | .version => some ([s!"idbridge, version {Service.version}"], 0)
  | .bare p => some (p.help, 2)
  | .refused p f => some (f.report p, 2)
  | _ => none

end FederatedLogin.Command
