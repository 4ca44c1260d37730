import FederatedLogin.Terminal.Wrap

/-!
# Tables

A table has a title, a row of headers and rows of cells, with lines around them. Each column is as
wide as its widest cell. If the table is then too wide for the output, the widest columns that may
break their lines shrink first, and at last all columns.
-/

namespace FederatedLogin.Terminal

/-- A column of a table. -/
structure Column where
  header : Text
  justify : Justify := .left
  /-- The cells stay on one line. -/
  keepWhole : Bool := false

/-- A table; titles, headers and cells are markup. -/
structure Table where
  title : Text
  columns : List Column
  rows : List (List Text)

namespace Table

/-! ### Widths -/

/-- Split at every character that ends a line. -/
def splitAtLineEnds (got : List CodePoint) : Text → List Text
  | [] => [got.reverse]
  | p :: rest =>
    if [10, 11, 12, 13, 28, 29, 30, 133, 8232, 8233].contains p.toNat then
      got.reverse :: splitAtLineEnds [] rest
    else splitAtLineEnds (p :: got) rest

/-- The cells that a text takes in a column of at most `limit` cells, with a blank on both sides. -/
def cellWidth (limit : Nat) (t : Text) : Nat :=
  if limit ≤ 2 then limit
  else min limit (min limit (((splitAtLineEnds [] t).map width).foldl max 0) + 2)

/-- The width of a column with these cells. -/
def columnWidth (limit : Nat) (cells : List Text) : Nat :=
  (cells.map (cellWidth limit)).foldl max 0

/-- A fraction rounded to a whole number; a half goes to the even neighbour. -/
def roundedRatio (a b : Nat) : Nat :=
  let q := a / b
  let r := a % b
  if 2 * r < b then q else if b < 2 * r then q + 1 else if q % 2 = 0 then q else q + 1

/-- The sum of some numbers. -/
def sum (l : List Nat) : Nat := l.foldr (· + ·) 0

/-- Take shares of `total` from the values, by their weights; no value loses more than its limit.
`weight` is the sum of the weights that are left. -/
def takeShares (total weight : Nat) : List (Nat × Nat × Nat) → List Nat
  | [] => []
  | (w, limit, value) :: rest =>
    if w ≠ 0 ∧ weight ≠ 0 then
      let share := min limit (roundedRatio (w * total) weight)
      (value - share) :: takeShares (total - share) (weight - w) rest
    else value :: takeShares total weight rest

/-- Reduce values by a total, in proportion to their weights. -/
def reduceBy (total : Nat) (weights limits values : List Nat) : List Nat :=
  let weights := List.zipWith (fun w l => if l = 0 then 0 else w) weights limits
  if sum weights = 0 then values
  else takeShares total (sum weights) (weights.zip (limits.zip values))

/-- Shrink the widest of the columns that may shrink, down to the next one, until the columns fit;
`fuel` bounds the steps. -/
def shrinkWidest (limit : Nat) (mayShrink : List Bool) : (fuel : Nat) → List Nat → List Nat
  | 0, widths => widths
  | fuel + 1, widths =>
    let excess := sum widths - limit
    if excess = 0 then widths
    else
      let shrinking := List.zipWith (fun w (b : Bool) => if b then w else 0) widths mayShrink
      let widest := shrinking.foldl max 0
      let second := (shrinking.map fun w => if w = widest then 0 else w).foldl max 0
      let weights :=
        List.zipWith (fun w (b : Bool) => if b && w == widest then 1 else 0) widths mayShrink
      if sum weights = 0 ∨ widest = second then widths
      else
        let limits := widths.map fun _ => min excess (widest - second)
        shrinkWidest limit mayShrink fuel (reduceBy excess weights limits widths)

/-- The widths of the columns, for `limit` cells between the lines. -/
def columnWidths (limit : Nat) (columns : List Column) (cells : List (List Text)) : List Nat :=
  let widths := cells.map fun c => max 1 (columnWidth limit c)
  if sum widths ≤ limit then widths
  else
    let shrunk := shrinkWidest limit (columns.map fun c => !c.keepWhole) (sum widths + 1) widths
    let fitted :=
      if limit < sum shrunk then reduceBy (sum shrunk - limit) (shrunk.map fun _ => 1) shrunk shrunk
      else shrunk
    List.zipWith columnWidth fitted cells

/-! ### Lines -/

/-- The lines of a cell in a column of `n` cells. -/
def cellLines (n : Nat) (c : Column) (t : Text) : List Text :=
  (wrap (n - 2) .ellipsis c.justify c.keepWhole t).map fun l =>
    fitTo n (blanks 1 ++ fitTo (n - 2) l ++ blanks 1)

/-- Put a text between others. -/
def joinWith (separator : Text) : List Text → Text
  | [] => []
  | [t] => t
  | t :: rest => t ++ separator ++ joinWith separator rest

/-- The lines of a row between vertical lines: cells with fewer lines get blank ones, above the cell
in the row of headers and below it elsewhere. -/
def rowLines (vertical : Char) (header : Bool) (widths : List Nat) (cells : List (List Text)) :
    List Text :=
  let height := (cells.map List.length).foldl max 1
  let filled := List.zipWith (fun n lines =>
    let missing := List.replicate (height - lines.length) (blanks n)
    if header then missing ++ lines else lines ++ missing) widths cells
  (List.range height).map fun i =>
    .char vertical :: joinWith [.char vertical] (filled.map fun lines => lines.getD i []) ++
      [.char vertical]

/-- A horizontal line, with its left end, its body, its crossings and its right end. -/
def horizontal (left body crossing right : Char) (widths : List Nat) : Text :=
  .char left ::
    joinWith [.char crossing] (widths.map fun n => List.replicate n (.char body)) ++ [.char right]

/-- The texts of the columns, each with its header first. -/
def texts (t : Table) : Except MarkupFault (List (List Text)) :=
  t.columns.zipIdx.mapM fun c =>
    (c.1.header :: t.rows.map fun r => r.getD c.2 []).mapM unmarked

/-- The lines that a table prints. -/
def print (t : Table) : Except MarkupFault (List Text) := do
  let cells ← t.texts
  let lines := t.columns.length + 1
  let widths := columnWidths (outputWidth - lines) t.columns cells
  let title ← unmarked t.title
  let row (vertical : Char) (header : Bool) (i : Nat) : List Text :=
    rowLines vertical header widths
      (List.zipWith (fun n c => cellLines n c.1 (c.2.getD i [])) widths (t.columns.zip cells))
  return wrap (sum widths + lines) .fold .centre false title ++
    [horizontal '┏' '━' '┳' '┓' widths] ++ row '┃' true 0 ++
    [horizontal '┡' '━' '╇' '┩' widths] ++
    ((List.range t.rows.length).flatMap fun i => row '│' false (i + 1)) ++
    [horizontal '└' '─' '┴' '┘' widths]

end Table

end FederatedLogin.Terminal
