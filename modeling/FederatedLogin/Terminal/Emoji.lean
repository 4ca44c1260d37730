import FederatedLogin.Terminal.EmojiTable
import FederatedLogin.Text.Blank
import FederatedLogin.Text.Case
import FederatedLogin.Text.CodePoint

/-!
# Pictures by name

A name between colons stands for a picture: `:smile:`. The name may end in `-text` or `-emoji`,
which selects a form of the picture. A name that the table does not hold stays as it is.
-/

namespace FederatedLogin.Terminal

open FederatedLogin.Text

/-- The picture after a name in a list of names and pictures. -/
def pictureIn? (name : List Char) : List (List Char) → Option (List Char)
  | n :: picture :: rest => if n = name then some picture else pictureIn? name rest
  | _ => none

/-- The picture of a name. -/
def picture? (name : List Char) : Option (List Char) :=
  pictureIn? (lowerChars name) (words emojiWords.toList)

/-- A form of a picture. -/
inductive Variant where
  | plain | text | emoji
  deriving DecidableEq, Repr

/-- The mark of a form behind a picture. -/
def Variant.mark : Variant → List Char
  | plain => []
  | text => ['\ufe0e']
  | emoji => ['\ufe0f']

/-- The closing colon, with the form in front of it, at the beginning of a text; and what
follows. -/
def closing? (t : Text) : Option (Variant × Text) :=
  if (ofString "-emoji:").isPrefixOf t then some (.emoji, t.drop 7)
  else if (ofString "-text:").isPrefixOf t then some (.text, t.drop 6)
  else if (ofString ":").isPrefixOf t then some (.plain, t.drop 1)
  else none

/-- The code point is spacing. -/
def isSpacingPoint : CodePoint → Bool
  | .char c => isSpacing c
  | .surrogate _ => false

/-- The shortest name up to a closing colon, without spacing, and what follows the colon. -/
def nameSpan? (got : List CodePoint) : Text → Option (Text × Variant × Text)
  | [] => none
  | p :: rest =>
    match closing? (p :: rest) with
    | some (v, after) => some (got.reverse, v, after)
    | none => if isSpacingPoint p then none else nameSpan? (p :: got) rest

/-- Replace the names between colons; `fuel` bounds the length of the text. -/
def withPicturesFrom : (fuel : Nat) → Text → Text
  | 0, t => t
  | _, [] => []
  | fuel + 1, p :: rest =>
    if p = .char ':' then
      match nameSpan? [] rest with
      | some (name, v, after) =>
        match (chars? name).bind picture? with
        | some picture => (picture ++ v.mark).map .char ++ withPicturesFrom fuel after
        | none => p :: (rest.take (rest.length - after.length) ++ withPicturesFrom fuel after)
      | none => p :: withPicturesFrom fuel rest
    else p :: withPicturesFrom fuel rest

/-- Replace the names between colons that the table holds. -/
def withPictures (t : Text) : Text := withPicturesFrom t.length t

end FederatedLogin.Terminal
