import FederatedLogin.Terminal.Markup
import FederatedLogin.Terminal.Width

/-!
# Lines

A text becomes lines of a given width. A line is broken between words; spacing after a word stays
with it. A word too long for any line is folded or, where `Overflow` says so, cut short with an
ellipsis. Lines are then left as they are, filled up, or centred.
-/

namespace FederatedLogin.Terminal

/-- What happens to a word that is too long for a line. -/
inductive Overflow where
  | fold | ellipsis
  deriving DecidableEq, Repr

/-- How a line is placed in its width. -/
inductive Justify where
  | none | left | centre
  deriving DecidableEq, Repr

/-- The words of a line, each with the spacing behind it; the first also has the spacing in front.
`got` is the word at hand, reversed; `inside` says that it has begun, and `ended` that spacing came
after it. Spacing alone makes no word. -/
def wordsWithSpacing (got : List CodePoint) (inside ended : Bool) : Text → List Text
  | [] => if inside then [got.reverse] else []
  | p :: rest =>
    if isSpacingPoint p then wordsWithSpacing (p :: got) inside inside rest
    else if ended then got.reverse :: wordsWithSpacing [p] true false rest
    else wordsWithSpacing (p :: got) true false rest

/-- Remove spacing at the end. -/
def trimEnd (t : Text) : Text := (t.reverse.dropWhile isSpacingPoint).reverse

/-- The breaks in front of the pieces of a folded word that starts at `start`; and the cells of the
last piece. -/
def foldBreaks (start : Nat) : List Text → List Nat × Nat
  | [] => ([], 0)
  | [piece] => (if start = 0 then [] else [start], width piece)
  | piece :: rest =>
    let (breaks, used) := foldBreaks (start + piece.length) rest
    ((if start = 0 then [] else [start]) ++ breaks, used)

/-- The offsets at which a line is broken. `used` is the number of cells taken on the line at hand,
and `start` the offset of the first word. -/
def breaksFrom (n : Nat) (o : Overflow) (used start : Nat) : List Text → List Nat
  | [] => []
  | word :: rest =>
    let next := start + word.length
    let needed := width (trimEnd word)
    if used + needed ≤ n then breaksFrom n o (used + width word) next rest
    else if n < needed then
      match o with
      | .fold =>
        let (breaks, used) := foldBreaks start (chop n word)
        breaks ++ breaksFrom n o used next rest
      | .ellipsis => (if start = 0 then [] else [start]) ++ breaksFrom n o (width word) next rest
    else if used ≠ 0 ∧ start ≠ 0 then start :: breaksFrom n o (width word) next rest
    else breaksFrom n o used next rest

/-- Cut a text at ascending offsets; `position` is the offset of its beginning. -/
def cutAt (position : Nat) : List Nat → Text → List Text
  | [], t => [t]
  | b :: rest, t => t.take (b - position) :: cutAt b rest (t.drop (b - position))

/-- Remove spacing at the end as far as a line has more characters than its width. -/
def trimBeyond (n : Nat) (t : Text) : Text :=
  let spacing := t.length - (trimEnd t).length
  t.take (t.length - min spacing (t.length - n))

/-- Cut a line that has too many cells. -/
def truncate (n : Nat) (o : Overflow) (t : Text) : Text :=
  if n < width t then
    match o with
    | .fold => fitTo n t
    | .ellipsis => fitTo (n - 1) t ++ [.char '…']
  else t

/-- Place a line in its width. -/
def justify (n : Nat) (o : Overflow) (j : Justify) (t : Text) : Text :=
  match j with
  | .none => t
  | .left => padTo n (truncate n o t)
  | .centre =>
    let t := truncate n o (trimEnd t)
    padTo n (blanks ((n - width t) / 2) ++ t)

/-- Replace tabs by blanks up to the next multiple of eight cells; `used` is the number of cells in
front. -/
def expandTabs (used : Nat) : Text → Text
  | [] => []
  | .char '\t' :: rest =>
    let next := (used / 8 + 1) * 8
    blanks (next - used) ++ expandTabs next rest
  | p :: rest => p :: expandTabs (used + cells p) rest

/-- Split at line feeds; `got` is the line at hand, reversed. -/
def splitLines (got : List CodePoint) : Text → List Text
  | [] => [got.reverse]
  | .char '\n' :: rest => got.reverse :: splitLines [] rest
  | p :: rest => splitLines (p :: got) rest

/-- The lines of one line of text. -/
def wrapLine (n : Nat) (o : Overflow) (j : Justify) (keepWhole : Bool) (t : Text) : List Text :=
  let t := expandTabs 0 t
  let lines :=
    if keepWhole then [t] else cutAt 0 (breaksFrom n o 0 0 (wordsWithSpacing [] false false t)) t
  lines.map fun l => truncate n o (justify n o j (trimBeyond n l))

/-- The lines of a text; `keepWhole` keeps each of its lines on one line. -/
def wrap (n : Nat) (o : Overflow) (j : Justify) (keepWhole : Bool) (t : Text) : List Text :=
  (splitLines [] t).flatMap (wrapLine n o j keepWhole)

/-- The number of cells of an output line. -/
def outputWidth : Nat := 100

/-- The lines that a text with markup prints. -/
def print (markup : Text) : Except MarkupFault (List Text) :=
  (unmarked markup).map (wrap outputWidth .fold .none false)

/-- A line across the output with a title in the middle. -/
def rule (title : Text) : Except MarkupFault (List Text) := do
  let title ← unmarked title
  let line := expandTabs 0 (title.map fun p => if p = .char '\n' then .char ' ' else p)
  let title := truncate (outputWidth - 4) .ellipsis line
  let side := (outputWidth - width title) / 2
  let left : Text := List.replicate (side - 1) (.char '─')
  let right : Text :=
    List.replicate (min (side + 1) (outputWidth - (side - 1) - width title)) (.char '─')
  let whole := fitTo outputWidth (left ++ .char ' ' :: (title ++ .char ' ' :: right))
  return wrap outputWidth .fold .none false whole

end FederatedLogin.Terminal
