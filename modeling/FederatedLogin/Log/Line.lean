import FederatedLogin.Json.Writer
import FederatedLogin.Log
import FederatedLogin.Rendered
import FederatedLogin.Settings

/-!
# Log lines

How a log call becomes a line. The values of credential fields are replaced before anything is
rendered, so that no renderer sees them. A line is a JSON object, or, for debugging, a coloured line
for a terminal with the event first and the fields sorted; there, a stack and an exception stand
below the line.
-/

namespace FederatedLogin.Log

/-- The fields whose values are never logged. -/
def secretNames : List String :=
  ["password", "hashed_password", "password_hash", "access_token", "token"]

/-- A field holds a credential. -/
def isSecret (key : Text) : Bool := secretNames.any fun s => Text.ofString s == key

/-- What stands in place of a credential. -/
def masked : Datum := .str "***"

/-- Replace the values of the credential fields at the top; nested values stay. -/
def maskSecrets (fields : List (Text × Datum)) : List (Text × Datum) :=
  fields.map fun e => if isSecret e.1 then (e.1, masked) else e

/-- The fields by which a caller asks for the exception that is being handled and for the stack at
the call. They are no part of a line themselves, and what they ask for is left out here. -/
def isTraceField (key : Text) : Bool :=
  key == Text.ofString "exc_info" || key == Text.ofString "stack_info"

/-- A call of a logger. -/
structure Call where
  level : Level
  event : Datum
  context : List (Text × Datum)
  deriving Inhabited

/-- How lines are rendered. -/
inductive Format where
  | json | console
  deriving DecidableEq, Repr

/-- The fields of a call, before the credentials are masked: a field of the context with the name of
a fixed one keeps its place and loses its value. -/
def Call.fields (c : Call) (logger time : Text) : List (Text × Datum) :=
  let put (name : String) (value : Datum) := Datum.insert (Text.ofString name) value
  let fields := put "event" c.event c.context
  let fields := put "level" (.str c.level.name) fields
  let fields := put "logger" (.text logger) fields
  (put "timestamp" (.text time) fields).filter fun e => !isTraceField e.1

/-! ### Terminal lines -/

/-- A way to show text on a terminal, by its number. -/
def look (n : Nat) : Text := .char '\x1b' :: Text.ofString s!"[{n}m"

/-- Back to plain text. -/
def plain : Text := look 0

/-- Bold text. -/
def bright : Text := look 1

/-- The colour number of a level. -/
def levelColour : Level → Nat
  | .debug | .info => 32
  | .warning => 33
  | .error | .critical => 31

/-- Blanks up to a width. -/
def padded (width : Nat) (t : Text) : Text := t ++ List.replicate (width - t.length) (.char ' ')

/-- A text needs quotes in a field: it holds a blank, a line end, `=` or a quote. -/
def needsQuotes (t : Text) : Bool :=
  t.any fun p => [' ', '\t', '=', '\r', '\n', '"', '\''].any fun c => p == .char c

/-- The value of a field. -/
def fieldValue : Datum → Text
  | .text t => if needsQuotes t then Text.ofString (Text.quoted t) else t
  | d => d.shown

/-- A field with its name. -/
def fieldText (e : Text × Datum) : Text :=
  look 36 ++ e.1 ++ plain ++ Text.ofString "=" ++ look 35 ++ fieldValue e.2 ++ plain

/-- The name of a logger, in brackets. -/
def loggerText (name : Text) : Text :=
  Text.ofString "[" ++ plain ++ bright ++ look 34 ++ name ++ plain ++ Text.ofString "]" ++ plain

/-- The fields that have their own place on a terminal line. -/
def placedNames : List String := ["timestamp", "level", "event", "logger", "logger_name"]

/-- The fields that stand below a terminal line. -/
def belowNames : List String := ["stack", "exception"]

/-- The text of a field. -/
def text? (name : String) (fields : List (Text × Datum)) : Option Text :=
  match Datum.lookup (Text.ofString name) fields with
  | some (.text t) => some t
  | _ => none

/-- What stands below a terminal line: the stack and the exception, with a rule between them. -/
def below (fields : List (Text × Datum)) : Text :=
  match text? "stack" fields, text? "exception" fields with
  | none, none => []
  | some t, none | none, some t => .char '\n' :: t
  | some stack, some exception =>
    .char '\n' :: stack ++ Text.ofString "\n\n" ++ List.replicate 79 (.char '=') ++
      Text.ofString "\n\n" ++ exception

/-- Texts with blanks between them. -/
def spaced : List Text → Text
  | [] => []
  | [t] => t
  | t :: rest => t ++ .char ' ' :: spaced rest

/-- Remove blanks at the end. -/
def trimEnd (t : Text) : Text := (t.reverse.dropWhile (· == .char ' ')).reverse

/-- A line for a terminal. -/
def consoleLine (level : Level) (fields : List (Text × Datum)) : Text :=
  let placed (name : String) (f : Text → Text) : List Text :=
    ((Datum.lookup (Text.ofString name) fields).map fun d => f d.display).toList
  let others := fields.filter fun e =>
    !(placedNames ++ belowNames).any fun n => Text.ofString n == e.1
  let parts :=
    placed "timestamp" (fun t => look 2 ++ t ++ plain) ++
      placed "level" (fun t => Text.ofString "[" ++ look (levelColour level) ++ bright ++
        padded 9 t ++ plain ++ Text.ofString "]") ++
      placed "event" (fun t => bright ++ padded 30 t ++ plain) ++
      placed "logger" loggerText ++ placed "logger_name" loggerText ++
      (others.mergeSort fun a b => Text.le a.1 b.1).map fieldText
  trimEnd (spaced parts) ++ below fields

/-! ### Lines -/

/-- The line of some fields. -/
def render (f : Format) (level : Level) (fields : List (Text × Datum)) : Text :=
  match f with
  | .json => Text.ofString (Json.write Json.spaced (.record fields))
  | .console => consoleLine level fields

/-- The line of a call. -/
def Call.line (c : Call) (f : Format) (logger time : Text) : Text :=
  render f c.level (maskSecrets (c.fields logger time))

/-- The lines that the calls of a logger write: those below the threshold write none. -/
def lines (f : Format) (threshold : Level) (logger time : Text) (calls : List Call) :
    List (Level × Text) :=
  (calls.filter fun c => threshold.rank ≤ c.level.rank).map fun c =>
    (c.level, c.line f logger time)

/-- How the settings have lines rendered: for a terminal while debugging. -/
def Format.ofSettings (s : Settings) : Format := if s.appDebug then .console else .json

/-- The lines that the calls of a logger write under some settings. -/
def written (s : Settings) (logger time : Text) (calls : List Call) : List (Level × Text) :=
  lines (.ofSettings s) s.logLevel logger time calls

end FederatedLogin.Log
