import FederatedLogin.Json.Reader
import FederatedLogin.Rendered
import FederatedLogin.Text.Blank

/-!
# Role mappings

An administrator configures, per provider, a JSON object from external role names to local role
slugs. `load` accepts exactly a blank text, which is the empty mapping, and objects whose values are
all strings. `resolve` picks the local role for a user: the first external role, in the order in
which they were asserted, whose entry is a slug that is not empty.
-/

namespace FederatedLogin

/-- Local role slugs by external role name, in the order of the configured text. -/
abbrev RoleMapping := List (Text × Text)

namespace RoleMapping

/-- What is wrong with a mapping text. -/
inductive Refusal where
  | notJson (complaint : Json.Complaint) (line column : Nat)
  | notObject (typeName : String)
  | notStrings (keys : List Text)
  deriving DecidableEq, Repr

/-- The wording of a refusal. -/
def Refusal.message : Refusal → String
  | notJson c line column => s!"invalid JSON: {Json.placed c line column}"
  | notObject t => s!"expected a JSON object, got {t}"
  | notStrings keys =>
    "role slugs must be strings (offending keys: " ++
      String.intercalate ", " (keys.map Text.quoted) ++ ")"

/-- Why a mapping text could not be loaded: it is refused, or it goes beyond a limit of the JSON
reader. -/
inductive LoadError where
  | refused (r : Refusal)
  | beyond (limit : Json.Limit)
  deriving DecidableEq, Repr

/-- The slugs of a record, or the keys whose values are no strings. -/
def ofEntries (entries : List (Text × Datum)) : RoleMapping × List Text :=
  entries.foldr (fun e acc =>
    match e.2 with
    | .text slug => ((e.1, slug) :: acc.1, acc.2)
    | _ => (acc.1, e.1 :: acc.2)) ([], [])

/-- The mapping that a JSON value stands for. -/
def ofDatum : Datum → Except Refusal RoleMapping
  | .record entries =>
    match ofEntries entries with
    | (mapping, []) => .ok mapping
    | (_, keys) => .error (.notStrings (keys.mergeSort Text.le))
  | d => .error (.notObject d.typeName)

/-- Load a mapping text strictly; no text and a blank text are the empty mapping. -/
def load (source : Option String) : Except LoadError RoleMapping :=
  match source with
  | none => .ok []
  | some s =>
    if Text.isAllSpacing s then .ok []
    else
      match Json.readText s with
      | .error (.malformed c line column) => .error (.refused (.notJson c line column))
      | .error (.beyond limit) => .error (.beyond limit)
      | .ok d => (ofDatum d).mapError .refused

/-- Load a mapping text, with the empty mapping in place of a refused one. The refusal comes back
beside it, to be reported. -/
def loadLenient (source : Option String) :
    Except Json.Limit (RoleMapping × Option Refusal) :=
  match load source with
  | .ok mapping => .ok (mapping, none)
  | .error (.refused r) => .ok ([], some r)
  | .error (.beyond limit) => .error limit

/-- The slug mapped from an external role. -/
def slug? (mapping : RoleMapping) (externalRole : Text) : Option Text :=
  (mapping.find? (·.1 == externalRole)).map (·.2)

/-- The slug mapped from the earliest external role that has one; an empty slug counts as none. -/
def resolve (mapping : RoleMapping) (externalRoles : List Text) : Option Text :=
  externalRoles.findSome? fun r => (mapping.slug? r).filter (!·.isEmpty)

end RoleMapping

end FederatedLogin
