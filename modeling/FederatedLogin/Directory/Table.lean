import FederatedLogin.Datum
import FederatedLogin.Number.Shortest
import FederatedLogin.Text.Case

/-!
# Tables of an external database

A table has named columns and rows of cells of any type, in the order in which they were put in.
Names count in any case of ASCII letters. A row is looked up by the lower-case form of a cell, where
the database knows ASCII letters only.
-/

namespace FederatedLogin.Directory

/-- A table of an external database. -/
structure Table where
  name : String
  columns : List String
  rows : List (List Datum)
  deriving Inhabited

/-- The only schema that the database has. -/
def mainSchema : String := "main"

/-- Two names are the same in any case of ASCII letters. -/
def sameName (a b : String) : Bool := Text.asciiLower a == Text.asciiLower b

/-- A name as the database understands it: one without capital letters is written without quotes,
so that a line end after it is blank. -/
def understood (name : String) : String :=
  if name.any Char.isUpper then name
  else String.ofList (name.toList.reverse.dropWhile (· = '\n')).reverse

/-- Where a column is. -/
def Table.column? (t : Table) (name : String) : Option Nat :=
  t.columns.findIdx? (sameName (understood name))

/-- Digits of a double in a cell: fifteen significant ones. -/
def cellDigits (m : Nat) (e : Int) : Nat × Int :=
  let (n, d) := Binary64.ratio m e
  let place := Binary64.leadingPlace n d
  let scale : Int := 14 - place
  let q := if 0 ≤ scale then Binary64.roundHalfEven (n * Nat.pow 10 scale.toNat) d
    else Binary64.roundHalfEven n (d * Nat.pow 10 (-scale).toNat)
  if Nat.pow 10 15 ≤ q then (q / 10, place + 1) else (q, place)

/-- The text of a double in a cell: with a point always, and an exponent below 10⁻⁴ and from 10¹⁵
on. -/
def cellText : Binary64 → String
  | .nan => ""
  | .infinity negative => if negative then "-inf" else "inf"
  | .finite negative m e =>
    if m = 0 then "0.0"
    else
      let (q, place) := cellDigits m e
      let digits := (toString q).toList
      let trimmed (ds : List Char) : List Char :=
        let kept := (ds.reverse.dropWhile (· = '0')).reverse
        if kept.isEmpty then ['0'] else kept
      let body :=
        if place < -4 ∨ 14 < place then
          let exponent := (toString place.natAbs).toList
          digits.take 1 ++ '.' :: trimmed (digits.drop 1) ++
            'e' :: (if place < 0 then '-' else '+') ::
              List.replicate (2 - exponent.length) '0' ++ exponent
        else if place < 0 then
          '0' :: '.' :: trimmed (List.replicate (-place - 1).toNat '0' ++ digits)
        else digits.take (place.toNat + 1) ++ '.' :: trimmed (digits.drop (place.toNat + 1))
      String.ofList (if negative then '-' :: body else body)

/-- The lower-case text of a cell. -/
def lowered : Datum → Option String
  | .text t => t.toString?.map Text.asciiLower
  | .bytes bs => (String.fromUTF8? ⟨bs.toArray⟩).map Text.asciiLower
  | .int n => some (toString n)
  | .bool b => some (if b then "1" else "0")
  | .float .nan => none
  | .float x => some (cellText x)
  | _ => none

end FederatedLogin.Directory
