import FederatedLogin.Number.Binary64
import FederatedLogin.Text.CodePoint

/-!
# Values of unknown shape

Configuration values, directory cells, claims and request bodies arrive without a promise about
their shape. A `Datum` is such a value. The entries of a record keep the order in which their keys
first came; `insert` replaces the value of a key that is there and keeps its place.
-/

namespace FederatedLogin

/-- A value of any shape. -/
inductive Datum where
  | null
  | bool (b : Bool)
  | int (n : Int)
  | float (x : Binary64)
  | text (t : Text)
  | bytes (bs : List UInt8)
  | list (items : List Datum)
  | record (entries : List (Text × Datum))
  deriving Inhabited

namespace Datum

/-- A string as a value. -/
def str (s : String) : Datum := .text (Text.ofString s)

theorem str_inj {s t : String} : str s = str t ↔ s = t :=
  ⟨fun h => Text.ofString_inj.mp (text.inj h), congrArg str⟩

/-- A record with string keys. -/
def object (entries : List (String × Datum)) : Datum :=
  .record (entries.map fun e => (Text.ofString e.1, e.2))

/-- A string, or null. -/
def ofString? : Option String → Datum
  | some s => str s
  | none => null

/-- Put a value under a key: in the place of the key if it is there, else at the end. -/
def insert (key : Text) (value : Datum) : List (Text × Datum) → List (Text × Datum)
  | [] => [(key, value)]
  | e :: rest => if e.1 = key then (key, value) :: rest else e :: insert key value rest

/-- The value under a key. -/
def lookup (key : Text) (entries : List (Text × Datum)) : Option Datum :=
  (entries.find? (·.1 == key)).map (·.2)

/-- The value of a field of a record; nothing for a value that is no record. -/
def field? (d : Datum) (name : String) : Option Datum :=
  match d with
  | record entries => lookup (Text.ofString name) entries
  | _ => none

/-- Empty values, zeros, false and null count as false; all else as true. -/
def truthy : Datum → Bool
  | null => false
  | bool b => b
  | int n => n ≠ 0
  | float (.finite _ m _) => m ≠ 0
  | float _ => true
  | text t => !t.isEmpty
  | bytes bs => !bs.isEmpty
  | list items => !items.isEmpty
  | record entries => !entries.isEmpty

/-- The name of the value's type, as diagnostics use it. -/
def typeName : Datum → String
  | null => "NoneType"
  | bool _ => "bool"
  | int _ => "int"
  | float _ => "float"
  | text _ => "str"
  | bytes _ => "bytes"
  | list _ => "list"
  | record _ => "dict"

/-- The string, for a text without lone surrogates. -/
def toString? : Datum → Option String
  | text t => t.toString?
  | _ => none

end Datum

end FederatedLogin
