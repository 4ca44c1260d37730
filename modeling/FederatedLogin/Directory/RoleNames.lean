import FederatedLogin.Json.Reader
import FederatedLogin.Rendered
import FederatedLogin.Text.Blank

/-!
# Role names in a directory cell

The cell that holds a user's roles may be a list, a JSON text, names with commas between them, or a
single value of any kind. `roleNames` makes a list of names of it, without nulls and empty names. A
text that goes beyond a limit of the JSON reader is the only one that cannot be read.
-/

namespace FederatedLogin.Directory

/-- The names of a list of values. -/
def namesOf (items : List Datum) : List Text :=
  (items.filter fun d => match d with
    | .null => false
    | _ => true).map Datum.display |>.filter (!·.isEmpty)

/-- The names of a value that is no text: of its items if it is a list, else the value as one. -/
def namesIn : Datum → List Text
  | .null => []
  | .list items => namesOf items
  | d => namesOf [d]

/-- The parts of a text between commas, without spacing around them. -/
def commaParts (s : List Char) : List Text :=
  let parts := s.foldr (fun c acc =>
    match c, acc with
    | ',', acc => [] :: acc
    | c, p :: rest => (c :: p) :: rest
    | c, [] => [[c]]) [[]]
  (parts.map (Text.stripBy Text.isSpacing)).filter (!·.isEmpty) |>.map (·.map .char)

/-- The role names in a cell. -/
def roleNames : Datum → Except Json.Limit (List Text)
  | .text t =>
    match t.chars? with
    | none => .ok [t]
    | some s =>
      let s := Text.stripBy Text.isSpacing s
      if s.isEmpty then .ok []
      else
        match Json.read s with
        | .ok d => .ok (namesIn d)
        | .error (.beyond limit) => .error limit
        | .error (.malformed _ _ _) => .ok (commaParts s)
  | d => .ok (namesIn d)

end FederatedLogin.Directory
