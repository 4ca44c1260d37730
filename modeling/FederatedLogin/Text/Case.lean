import FederatedLogin.Text.CaseTable
import FederatedLogin.Text.Ranges

/-!
# Lower case and title case

Lower-casing follows the full mapping of Unicode 14: `İ` becomes two characters, and a capital
sigma at the end of a word becomes the final sigma `ς`. Title-casing writes a character in its
title form when the character before it has no case, and in lower case otherwise. `asciiLower`
knows the twenty-six ASCII letters only.
-/

namespace FederatedLogin.Text

/-- The character at a code point moved by `shift`. -/
def shifted (c : Char) (shift : Int) : Char := Char.ofNat ((c.toNat : Int) + shift).toNat

/-- The character has an upper, lower or title form. -/
def isCased (c : Char) : Bool := inRanges casedRanges c.toNat

/-- The character is skipped when the word-final rule looks for a neighbour with case. -/
def isCaseIgnorable (c : Char) : Bool := inRanges caseIgnorableRanges c.toNat

/-- The nearest character that is not skipped exists and has case. -/
def facesCased (s : List Char) : Bool :=
  match s.dropWhile isCaseIgnorable with
  | [] => false
  | c :: _ => isCased c

/-- The lower-case form of one character by itself. -/
def lowerSimple (c : Char) : List Char :=
  if c.toNat < 128 then [c.toLower]
  else if c = 'İ' then ['i', '\u0307']
  else
    match lowerRuns.find? (·.covers c.toNat) with
    | some r => [shifted c r.shift]
    | none => [c]

/-- The lower-case form of `c` between the characters `before` (nearest first) and `after`. -/
def lowerIn (before after : List Char) (c : Char) : List Char :=
  if c = 'Σ' then if facesCased before && !facesCased after then ['ς'] else ['σ']
  else lowerSimple c

/-- Lower-case `s`, which stands after the characters `before` (nearest first). -/
def lowerAfter (before : List Char) : List Char → List Char
  | [] => []
  | c :: rest => lowerIn before rest c ++ lowerAfter (c :: before) rest

/-- Lower-case a list of characters. -/
def lowerChars (s : List Char) : List Char := lowerAfter [] s

/-- Lower-case a text. -/
def lower (s : String) : String := String.ofList (lowerChars s.toList)

/-- The title-case form of one character. -/
def titleSimple (c : Char) : List Char :=
  match titleExpansions.find? (·.1 == c.toNat) with
  | some e => e.2.map Char.ofNat
  | none =>
    match titleRuns.find? (·.covers c.toNat) with
    | some r => [shifted c r.shift]
    | none => [c]

/-- Title-case `s`, which stands after the characters `before` (nearest first). -/
def titleAfter (before : List Char) : List Char → List Char
  | [] => []
  | c :: rest =>
    let form :=
      match before with
      | b :: _ => if isCased b then lowerIn before rest c else titleSimple c
      | [] => titleSimple c
    form ++ titleAfter (c :: before) rest

/-- Title-case a text: each word's first letter in title form, the other letters in lower case. -/
def title (s : String) : String := String.ofList (titleAfter [] s.toList)

/-- Lower-case the ASCII letters only. -/
def asciiLower (s : String) : String := String.ofList (s.toList.map Char.toLower)

end FederatedLogin.Text
