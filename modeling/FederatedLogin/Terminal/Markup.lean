import FederatedLogin.Terminal.Emoji
import FederatedLogin.Terminal.Style

/-!
# Markup

Text for the terminal may hold tags in square brackets: `[red]` opens a style, `[/red]` closes it,
and `[/]` closes the one opened last. A tag begins with a small letter, `#`, `/` or `@`; a bracket
with anything else behind it is text, and so is a tag after a backslash. Since output is without
colour, reading markup leaves the text between the tags. Closing what is not open is an error, and
so is the name of a colour with a number that cannot be read.
-/

namespace FederatedLogin.Terminal

open FederatedLogin.Text

/-- A part of a text with markup. -/
inductive Piece where
  | plain (t : Text)
  /-- A tag with the position of its bracket. -/
  | tag (position : Nat) (name : Text) (parameters : Option Text)
  deriving DecidableEq, Repr

/-- What may follow the opening bracket of a tag. -/
def beginsTag : CodePoint → Bool
  | .char c => ('a' ≤ c && c ≤ 'z') || c == '#' || c == '/' || c == '@'
  | .surrogate _ => false

/-- The text up to a closing bracket, without an opening one, and what follows. -/
def bracketed? (got : List CodePoint) : Text → Option (Text × Text)
  | [] => none
  | .char ']' :: rest => some (got.reverse, rest)
  | .char '[' :: _ => none
  | p :: rest => bracketed? (p :: got) rest

/-- The inside of a tag at the beginning of a text, and what follows the tag. -/
def tagAt? : Text → Option (Text × Text)
  | .char '[' :: p :: rest => if beginsTag p then bracketed? [p] rest else none
  | _ => none

/-- Split at the first `=`. -/
def splitParameters (got : List CodePoint) : Text → Text × Option Text
  | [] => (got.reverse, none)
  | .char '=' :: rest => (got.reverse, some rest)
  | p :: rest => splitParameters (p :: got) rest

/-- A plain part, unless it is empty. -/
def plainPiece (t : Text) : List Piece := if t.isEmpty then [] else [.plain t]

/-- The parts of a text from a position on. `got` is the plain text before it, reversed; `fuel`
bounds the length. -/
def piecesFrom (position : Nat) (got : List CodePoint) : (fuel : Nat) → Text → List Piece
  | 0, t => plainPiece (got.reverse ++ t)
  | _, [] => plainPiece got.reverse
  | fuel + 1, p :: rest =>
    let slashes := (p :: rest).takeWhile (· == .char '\\')
    let n := slashes.length
    match tagAt? ((p :: rest).drop n) with
    | some (body, after) =>
      let next := position + n + body.length + 2
      let found : Piece :=
        if n % 2 = 1 then .plain (.char '[' :: (body ++ [.char ']']))
        else .tag (position + n) (splitParameters [] body).1 (splitParameters [] body).2
      plainPiece got.reverse ++ plainPiece (slashes.take (n / 2)) ++
        found :: piecesFrom next [] fuel after
    | none =>
      let taken := (p :: rest).take (max n 1)
      piecesFrom (position + taken.length) (taken.reverse ++ got) fuel ((p :: rest).drop (max n 1))

/-- The parts of a text. -/
def pieces (t : Text) : List Piece := piecesFrom 0 [] t.length t

/-- Markup that cannot be read. -/
inductive MarkupFault where
  | notOpen (name : Text) (parameters : Option Text) (position : Nat)
  | nothingOpen (position : Nat)
  /-- The name of a style has a number that cannot be read. -/
  | badNumber (f : NumberFault)
  deriving DecidableEq, Repr

/-- The wording of a fault. -/
def MarkupFault.message : MarkupFault → Text
  | notOpen name parameters position =>
    let inside := match parameters with
      | some p => name ++ .char '=' :: p
      | none => name
    ofString "closing tag '[" ++ inside ++
      ofString s!"]' at position {position} doesn't match any open tag"
  | nothingOpen position =>
    ofString s!"closing tag '[/]' at position {position} has nothing to close"
  | badNumber f => ofString f.message

/-- The one name of a style under any of its names. -/
def styleName (t : Text) : Except MarkupFault Text :=
  match chars? t with
  | some s => ((Style.name s).map (·.map .char)).mapError .badNumber
  | none => .ok t

/-- Remove spacing at both ends. -/
def trimSpacing (t : Text) : Text :=
  ((t.dropWhile isSpacingPoint).reverse.dropWhile isSpacingPoint).reverse

/-- Control characters that a terminal text must not hold. -/
def isControl (p : CodePoint) : Bool := [7, 8, 11, 12, 13].contains p.toNat

/-- A bracket after a backslash stands for the bracket. -/
def unescapeBrackets : Text → Text
  | .char '\\' :: .char '[' :: rest => .char '[' :: unescapeBrackets rest
  | p :: rest => p :: unescapeBrackets rest
  | [] => []

/-- The text of a plain part: pictures in place of their names, and no control characters. -/
def plainText (t : Text) : Text := (withPictures (unescapeBrackets t)).filter fun p => !isControl p

/-- The text of some parts, where the styles `opened` are open, the last one first. -/
def textOf (opened : List Text) : List Piece → Except MarkupFault Text
  | [] => .ok []
  | .plain t :: rest => (textOf opened rest).map (plainText t ++ ·)
  | .tag position name parameters :: rest =>
    match name with
    | .char '/' :: closed =>
      let closed := trimSpacing closed
      if closed.isEmpty then
        match opened with
        | [] => .error (.nothingOpen position)
        | _ :: opened => textOf opened rest
      else do
        let style ← styleName closed
        if opened.contains style then textOf (opened.erase style) rest
        else .error (.notOpen name parameters position)
    | _ => do textOf ((← styleName name) :: opened) rest

/-- The text of markup, without its tags. -/
def unmarked (t : Text) : Except MarkupFault Text := textOf [] (pieces t)

end FederatedLogin.Terminal
