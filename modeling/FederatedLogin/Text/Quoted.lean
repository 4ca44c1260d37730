import FederatedLogin.Text.CodePoint
import FederatedLogin.Text.PrintableTable
import FederatedLogin.Text.Ranges

/-!
# Quoted text

A text is shown between single quotes, or between double quotes when it holds a single quote and no
double one. The quote in use and the backslash are written after a backslash; tab, line feed and
carriage return have short escapes; any other code point that is not printable is written as
`\xhh`, `\uhhhh` or `\Uhhhhhhhh`, whichever is the shortest that has room for it. Bytes are quoted
the same way, with `\xhh` for all outside printable ASCII.
-/

namespace FederatedLogin.Text

/-- The lower-case hexadecimal digit for a value below sixteen. -/
def hexDigit (n : Nat) : Char := Nat.digitChar n

/-- The value `n` in exactly `width` hexadecimal digits. -/
def hex (width n : Nat) : List Char :=
  (List.range width).reverse.map fun i => hexDigit (n / Nat.pow 16 i % 16)

/-- The code point is shown as itself in a quoted text. -/
def isPrintable (c : CodePoint) : Bool :=
  if c.toNat < 127 then 32 ≤ c.toNat else !inRanges unprintableRanges c.toNat

/-- The quote that goes around a text: double only if that saves escapes. -/
def quoteFor (hasSingle hasDouble : Bool) : Char := if hasSingle && !hasDouble then '"' else '\''

/-- How one code point is written between quotes `q`. -/
def quotedPoint (q : Char) (c : CodePoint) : List Char :=
  match c with
  | .char '\t' => ['\\', 't']
  | .char '\n' => ['\\', 'n']
  | .char '\r' => ['\\', 'r']
  | .char x =>
    if x = q ∨ x = '\\' then ['\\', x]
    else if isPrintable (.char x) then [x]
    else if x.toNat < 0x100 then '\\' :: 'x' :: hex 2 x.toNat
    else if x.toNat < 0x10000 then '\\' :: 'u' :: hex 4 x.toNat
    else '\\' :: 'U' :: hex 8 x.toNat
  | .surrogate k => '\\' :: 'u' :: hex 4 (0xD800 + k)

/-- The quoted form of a text. -/
def quotedChars (t : Text) : List Char :=
  let q := quoteFor (t.contains (.char '\'')) (t.contains (.char '"'))
  q :: (t.flatMap (quotedPoint q) ++ [q])

/-- The quoted form of a text, as a string. -/
def quoted (t : Text) : String := String.ofList (quotedChars t)

/-- The quoted form of a string. -/
def quotedString (s : String) : String := quoted (ofString s)

/-- How one byte is written between quotes `q`. -/
def quotedByte (q : Char) (b : UInt8) : List Char :=
  let x := Char.ofNat b.toNat
  if x = '\t' then ['\\', 't']
  else if x = '\n' then ['\\', 'n']
  else if x = '\r' then ['\\', 'r']
  else if x = q ∨ x = '\\' then ['\\', x]
  else if 32 ≤ b.toNat ∧ b.toNat < 127 then [x]
  else '\\' :: 'x' :: hex 2 b.toNat

/-- The quoted form of bytes, with the letter `b` in front. -/
def quotedBytes (bs : List UInt8) : String :=
  let q := quoteFor (bs.contains 39) (bs.contains 34)
  String.ofList ('b' :: q :: (bs.flatMap (quotedByte q) ++ [q]))

example : quotedString "it's" = "\"it's\"" := by decide
example : quotedString "a\"b'c\\" = "'a\"b\\'c\\\\'" := by decide

end FederatedLogin.Text
