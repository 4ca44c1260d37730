import FederatedLogin.Datum
import FederatedLogin.Number.Shortest
import FederatedLogin.Text.Quoted

/-!
# Values as text

`Datum.shown` is the form of a value inside another one: texts are quoted, lists stand in brackets
and records in braces. `Datum.display` differs only for a text on its own, which stands as it is.
-/

namespace FederatedLogin.Datum

mutual

/-- The form of a value inside a list or record. -/
def shown : Datum → Text
  | .null => Text.ofString "None"
  | .bool b => Text.ofString (if b then "True" else "False")
  | .int n => Text.ofString (toString n)
  | .float x => Text.ofString x.text
  | .text t => Text.ofString (Text.quoted t)
  | .bytes bs => Text.ofString (Text.quotedBytes bs)
  | .list items => Text.ofString "[" ++ shownItems items ++ Text.ofString "]"
  | .record entries => Text.ofString "\x7b" ++ shownEntries entries ++ Text.ofString "\x7d"

/-- The items of a list, with commas between them. -/
def shownItems : List Datum → Text
  | [] => []
  | [d] => shown d
  | d :: rest => shown d ++ Text.ofString ", " ++ shownItems rest

/-- The entries of a record, with commas between them. -/
def shownEntries : List (Text × Datum) → Text
  | [] => []
  | [(k, d)] => Text.ofString (Text.quoted k) ++ Text.ofString ": " ++ shown d
  | (k, d) :: rest =>
    Text.ofString (Text.quoted k) ++ Text.ofString ": " ++ shown d ++ Text.ofString ", " ++
      shownEntries rest

end

/-- The form of a value on its own. -/
def display : Datum → Text
  | .text t => t
  | d => shown d

/-- The form of a value on its own, as a string; a lone surrogate becomes the replacement
character. -/
def displayString (d : Datum) : String :=
  String.ofList (d.display.map fun p => p.toChar?.getD '\ufffd')

end FederatedLogin.Datum
