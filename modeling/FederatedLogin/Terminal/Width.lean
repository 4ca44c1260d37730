import FederatedLogin.Terminal.WidthTable
import FederatedLogin.Text.CodePoint
import FederatedLogin.Text.Ranges

/-!
# Widths of text on a terminal

A terminal line is measured in cells: most characters take one, some take two, and marks take none.
A text is cut to a number of cells, with a blank in place of the first half of a wide character that
the cut would split, or filled up with blanks.
-/

namespace FederatedLogin.Terminal

open FederatedLogin.Text

/-- The number of cells of a character. -/
def cells (p : CodePoint) : Nat :=
  if inRanges zeroWidthRanges p.toNat then 0
  else if inRanges wideRanges p.toNat then 2
  else 1

/-- The number of cells of a text. -/
def width (t : Text) : Nat := t.foldr (fun p n => cells p + n) 0

/-- So many blanks. -/
def blanks (n : Nat) : Text := List.replicate n (.char ' ')

/-- Fill a text up with blanks. -/
def padTo (n : Nat) (t : Text) : Text := t ++ blanks (n - width t)

/-- Search for a beginning of `n` cells, by halving the range of its end; `fuel` bounds the
steps. -/
def bisect (t : Text) (n start stop : Nat) : (fuel : Nat) → Text
  | 0 => []
  | fuel + 1 =>
    let middle := (start + stop) / 2
    let before := t.take (middle + 1)
    if width before = n + 1 ∧ (before.getLast?.map cells) = some 2 then before.dropLast ++ blanks 1
    else if width before = n then before
    else if n < width before then bisect t n start middle fuel
    else bisect t n middle stop fuel

/-- A text in exactly so many cells. -/
def fitTo (n : Nat) (t : Text) : Text :=
  if width t ≤ n then padTo n t
  else if n = 0 then []
  else bisect t n 0 t.length (t.length + 1)

/-- Cut a text into pieces of at most so many cells. `got` is the piece at hand, reversed, and
`used` its cells. -/
def chopFrom (n : Nat) (got : List CodePoint) (used : Nat) : Text → List Text
  | [] => [got.reverse]
  | p :: rest =>
    if n < used + cells p then got.reverse :: chopFrom n [p] (cells p) rest
    else chopFrom n (p :: got) (used + cells p) rest

/-- Cut a text into pieces of at most so many cells. -/
def chop (n : Nat) (t : Text) : List Text := chopFrom n [] 0 t

end FederatedLogin.Terminal
