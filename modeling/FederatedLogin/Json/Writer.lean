import FederatedLogin.Datum
import FederatedLogin.Number.Shortest
import FederatedLogin.Text.Quoted

/-!
# Writing JSON

Values are written in ASCII: any other character is escaped as its UTF-16 units. The two layouts
differ in the separators between entries and after keys. Bytes have no JSON form and are written as
their quoted text.
-/

namespace FederatedLogin.Json

/-- The separators of a layout. -/
structure Layout where
  item : String
  key : String

/-- No blanks at all. -/
def compact : Layout := ⟨",", ":"⟩

/-- A blank after each separator. -/
def spaced : Layout := ⟨", ", ": "⟩

/-- An escape with four hexadecimal digits. -/
def escapeUnit (n : Nat) : List Char := '\\' :: 'u' :: Text.hex 4 n

/-- How one code point is written inside a string. -/
def writePoint : CodePoint → List Char
  | .surrogate k => escapeUnit (0xD800 + k)
  | .char '"' => ['\\', '"']
  | .char '\\' => ['\\', '\\']
  | .char '\n' => ['\\', 'n']
  | .char '\r' => ['\\', 'r']
  | .char '\t' => ['\\', 't']
  | .char '\x08' => ['\\', 'b']
  | .char '\x0c' => ['\\', 'f']
  | .char c =>
    let n := c.toNat
    if 32 ≤ n ∧ n < 127 then [c]
    else if n < 0x10000 then escapeUnit n
    else escapeUnit (0xD800 + (n - 0x10000) / 0x400) ++ escapeUnit (0xDC00 + (n - 0x10000) % 0x400)

/-- A text as a JSON string. -/
def writeText (t : Text) : String := String.ofList ('"' :: (t.flatMap writePoint ++ ['"']))

/-- A double as JSON, with the three literals that JSON lacks. -/
def writeFloat : Binary64 → String
  | .nan => "NaN"
  | .infinity negative => if negative then "-Infinity" else "Infinity"
  | x => x.text

mutual

/-- A value as JSON. -/
def write (l : Layout) : Datum → String
  | .null => "null"
  | .bool b => if b then "true" else "false"
  | .int n => toString n
  | .float x => writeFloat x
  | .text t => writeText t
  | .bytes bs => writeText (Text.ofString (Text.quotedBytes bs))
  | .list items => "[" ++ writeItems l items ++ "]"
  | .record entries => "\x7b" ++ writeEntries l entries ++ "\x7d"

/-- The items of a list, separated. -/
def writeItems (l : Layout) : List Datum → String
  | [] => ""
  | [d] => write l d
  | d :: rest => write l d ++ l.item ++ writeItems l rest

/-- The entries of a record, separated. -/
def writeEntries (l : Layout) : List (Text × Datum) → String
  | [] => ""
  | [(k, d)] => writeText k ++ l.key ++ write l d
  | (k, d) :: rest => writeText k ++ l.key ++ write l d ++ l.item ++ writeEntries l rest

end

end FederatedLogin.Json
