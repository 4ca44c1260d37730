import FederatedLogin.Command
import FederatedLogin.Settings.Mappings

/-!
# The command line

A run of the program is one command on a store that is empty at first. A login starts the service
within the run and is answered by it. Warnings and crashes go to the error output.
-/

namespace FederatedLogin.Main

/-- The variables that can hold settings, and the environment file. -/
def surroundings : IO Surroundings := do
  let names := Settings.names.map String.toUpper ++ Settings.names
  let env ← names.filterMapM fun name => return (← IO.getEnv name).map fun value => (name, value)
  let file ← try some <$> IO.FS.readFile ".env" catch _ => pure none
  return ⟨env, file⟩

/-- The settings; the exit code if they cannot be read. -/
def settings (w : Surroundings) : IO (Except UInt32 Settings) := do
  match Settings.load w [] with
  | .ok s =>
    for e in s.warnings do
      if let .line _ _ text := e then IO.eprintln text
    return .ok s
  | .error e =>
    IO.eprintln s!"{repr e}"
    return .error 1

/-- Print what a command prints, and give its exit code. -/
def finish (outcome : Except Command.Crash Nat × List String) : IO UInt32 := do
  outcome.2.forM IO.println
  match outcome.1 with
  | .ok code => return code.toUInt32
  | .error c =>
    IO.eprintln ((Text.toString? c.message).getD "")
    return 1

/-- A number of random bytes. -/
def randomBytes (count : USize) : IO (List UInt8) := return (← IO.getRandomBytes count).toList

/-- A random identifier. -/
def randomId : IO Uuid := do
  return ⟨.ofNat 128 ((← randomBytes 16).foldl (fun n b => n * 256 + b.toNat) 0)⟩

/-- Start the service and let it answer the request of a login. -/
def answer (w : Surroundings) (s : Settings) (p : Command.Post) : IO Command.Reply := do
  let salt := String.ofList (Password.HashSettings.text ⟨"2b", 12, ← randomBytes 16⟩)
  let (_, store, _) := Startup.run s (← randomId) salt (some {})
  let now := (← IO.monoMsNow) / 1000
  let context : Service.Context := ⟨s, Settings.mappingsNow w, now, ← randomId, []⟩
  match (Service.handle context p.request ⟨store, 0⟩).1 with
  | .ok r => return .ofResponse r
  | .error _ => return .noConnection

/-- Log in; the password is read from the input if it is not given. -/
def login (apiUrl email : String) (password : Option String) (extra : List String) : IO UInt32 := do
  let input ← if password.isNone then (← IO.getStdin).lines else pure #[]
  let (ready, lines) := (Command.prepareLogin apiUrl email password extra input.toList).run
  match ready with
  | .ok (.error code) => finish (.ok code, lines)
  | .error c => finish (.error c, lines)
  | .ok (.ok post) =>
    lines.forM IO.println
    let w ← surroundings
    match ← settings w with
    | .ok s => finish (Command.showReply apiUrl (← answer w s post)).run
    | .error code => return code

/-- Do what a command line asks for. -/
def perform : Command.Invocation → IO UInt32
  | .login apiUrl email password extra => login apiUrl email password extra
  | .rolesSeed slugs => withSettings fun s =>
    match ((Command.seedRoles s slugs : Action Store.Fault _).start {}).1 with
    | .ok created => Command.showSeeded created
    | .error f => Command.Printing.crash (.store f)
  | .rolesList => withSettings fun s => Command.showRoles s {}
  | .mappingShow providers => withSettings fun s => Command.showMappings s providers
  | .serve host port _ => do
    IO.eprintln s!"Cannot listen on {host}:{port}"
    return 1
  | i =>
    let (lines, code) := (Command.answerAtOnce? i).getD ([], 0)
    finish (.ok code, lines)
where
  withSettings (f : Settings → Command.Printing Nat) : IO UInt32 := do
    match ← settings (← surroundings) with
    | .ok s => finish (f s).run
    | .error code => return code

end FederatedLogin.Main

/-- Read the command line and do what it asks for. -/
def main (args : List String) : IO UInt32 := do
  FederatedLogin.Main.perform (FederatedLogin.Command.read (← IO.getEnv "IDBRIDGE_API_URL") args)
