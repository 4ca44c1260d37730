import FederatedLogin.Command.Page
import FederatedLogin.Provider
import FederatedLogin.Text.Integer
import FederatedLogin.Text.Quoted

/-!
# Reading the command line

Arguments become an `Invocation`. Options may be written `--name value` or `--name=value`, and may
stand behind other arguments of a command; `--` ends them. Help and version win over every fault but
those of the options themselves.
-/

namespace FederatedLogin.Command

/-- A command line that cannot be read. -/
inductive UsageFault where
  | unknownOption (name : String)
  | valueMissing (option : String)
  | valueGiven (option : String)
  | unknownCommand (name : String)
  | commandMissing
  | emailMissing
  | extraArguments (arguments : List String)
  | notANumber (option value : String)
  | notAProvider (value : String)
  deriving DecidableEq, Repr

namespace UsageFault

/-- The wording of a fault. -/
def message : UsageFault → String
  | unknownOption name => s!"No such option {Text.quotedString name}."
  | valueMissing option => s!"Option {Text.quotedString option} requires an argument."
  | valueGiven option => s!"Option {Text.quotedString option} does not take a value."
  | unknownCommand name => s!"No such command {Text.quotedString name}."
  | commandMissing => "Missing command."
  | emailMissing => "Missing argument 'EMAIL'."
  | extraArguments arguments =>
    let s := if arguments.length = 1 then "" else "s"
    s!"Got unexpected extra argument{s} (" ++ " ".intercalate arguments ++ ")"
  | notANumber option value =>
    s!"Invalid value for '{option}': {Text.quotedString value} is not a valid integer."
  | notAProvider value =>
    let names := ", ".intercalate (Provider.all.map fun p => Text.quotedString p.name)
    s!"Invalid value for '--provider': {Text.quotedString value} is not one of {names}."

/-- A fault in the writing of an option is reported without the usage of the page. -/
def hidesUsage : UsageFault → Bool
  | valueMissing _ | valueGiven _ => true
  | _ => false

/-- The lines that report a fault on a page. -/
def report (f : UsageFault) (p : Page) : List String :=
  (if f.hidesUsage then [] else [p.usage, s!"Try '{p.path} --help' for help.", ""]) ++
    ["Error: " ++ f.message]

end UsageFault

/-- The arguments of a page, taken apart. -/
structure Scanned where
  /-- The options in their order, with the values of those that take one. -/
  options : List (String × String) := []
  /-- All other arguments. -/
  operands : List String := []
  deriving DecidableEq, Repr

namespace Scanned

/-- An option was given. -/
def has (s : Scanned) (option : String) : Bool := s.options.any (·.1 == option)

/-- The last value of an option. -/
def value? (s : Scanned) (option : String) : Option String :=
  (s.options.reverse.find? (·.1 == option)).map (·.2)

/-- All values of an option. -/
def values (s : Scanned) (option : String) : List String :=
  (s.options.filter (·.1 == option)).map (·.2)

end Scanned

/-- Split an argument at the first `=`; `got` is the name so far, reversed. -/
def splitValue (got : List Char) : List Char → String × Option String
  | [] => (String.ofList got.reverse, none)
  | '=' :: rest => (String.ofList got.reverse, some (String.ofList rest))
  | c :: rest => splitValue (c :: got) rest

/-- The name of an option that is not known: the whole name after two dashes, one letter after
one. -/
def unknownName (argument name : String) : String :=
  if argument.startsWith "--" then name else String.ofList (argument.toList.take 2)

/-- Take the arguments of a page apart. -/
def scan (p : Page) (s : Scanned) : List String → Except UsageFault Scanned
  | [] => .ok s
  | argument :: rest =>
    if argument = "--" then .ok { s with operands := s.operands ++ rest }
    else if argument.startsWith "-" && argument.length > 1 then
      let (name, value) := splitValue [] argument.toList
      if p.valued.contains name then
        match value, rest with
        | some v, rest => scan p { s with options := s.options ++ [(name, v)] } rest
        | none, v :: rest => scan p { s with options := s.options ++ [(name, v)] } rest
        | none, [] => .error (.valueMissing name)
      else if p.flags.contains name then
        match value with
        | none => scan p { s with options := s.options ++ [(name, "")] } rest
        | some _ => .error (.valueGiven name)
      else .error (.unknownOption (unknownName argument name))
    else if p.isGroup then .ok { s with operands := s.operands ++ argument :: rest }
    else scan p { s with operands := s.operands ++ [argument] } rest

/-- What a command line asks for. -/
inductive Invocation where
  | help (p : Page)
  | version
  /-- A group without any argument: its help, as a failure. -/
  | bare (p : Page)
  | refused (p : Page) (f : UsageFault)
  | rolesList
  | rolesSeed (slugs : List String)
  | mappingShow (providers : List Provider)
  /-- A login; without a password there will be a prompt. Extra arguments count after it only. -/
  | login (apiUrl email : String) (password : Option String) (extra : List String)
  | serve (host : String) (port : Int) (reload : Bool)
  deriving DecidableEq, Repr

/-- Go on with the arguments of a page unless it asks for help. -/
def onPage (p : Page) (arguments : List String) (f : Scanned → Invocation) : Invocation :=
  if p.isGroup && arguments.isEmpty then .bare p
  else
    match scan p {} arguments with
    | .error e => .refused p e
    | .ok s =>
      match s.options.find? fun o => o.1 == "--help" || o.1 == "--version" with
      | some o => if o.1 == "--help" then .help p else .version
      | none => f s

/-- Refuse arguments that are left over. -/
def noMore (p : Page) (extra : List String) (i : Invocation) : Invocation :=
  if extra.isEmpty then i else .refused p (.extraArguments extra)

/-- Go on with the command of a group. -/
def onCommand (p : Page) (s : Scanned) (f : Page → List String → Invocation) : Invocation :=
  match s.operands with
  | [] => .refused p .commandMissing
  | name :: rest =>
    match p.commands.lookup name with
    | some q => f q rest
    | none => .refused p (.unknownCommand name)

/-- Read the arguments of a command. -/
def readCommand (apiUrl : String) (p : Page) (arguments : List String) : Invocation :=
  onPage p arguments fun s =>
    match p with
    | .rolesList => noMore p s.operands .rolesList
    | .rolesSeed => .rolesSeed s.operands
    | .mappingShow =>
      match (s.values "--provider").find? fun n => (Provider.ofName? n).isNone with
      | some n => .refused p (.notAProvider n)
      | none =>
        noMore p s.operands (.mappingShow ((s.values "--provider").filterMap Provider.ofName?))
    | .login =>
      match s.operands with
      | [] => .refused p .emailMissing
      | email :: extra => .login apiUrl email (s.value? "--password") extra
    | .serve =>
      let host := (s.value? "--host").getD "0.0.0.0"
      let port := (s.value? "--port").getD "8000"
      match Text.integer? 10 port.toList with
      | none => .refused p (.notANumber "--port" port)
      | some n => noMore p s.operands (.serve host n (s.has "--reload"))
    | p => .help p

/-- Remove slashes at the end. -/
def trimSlashes (s : String) : String :=
  String.ofList (s.toList.reverse.dropWhile (· == '/')).reverse

/-- Read a command line. The address of the service comes from its option or else from the variable
for it, unless that is empty. -/
def read (apiUrlVariable : Option String) (arguments : List String) : Invocation :=
  onPage .top arguments fun s =>
    let fallback := (apiUrlVariable.filter (· ≠ "")).getD "http://localhost:8000"
    let apiUrl := trimSlashes ((s.value? "--api-url").getD fallback)
    onCommand .top s fun p rest =>
      if p.isGroup then onPage p rest fun s => onCommand p s (readCommand apiUrl)
      else readCommand apiUrl p rest

end FederatedLogin.Command
