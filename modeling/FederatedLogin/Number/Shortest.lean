import FederatedLogin.Number.Binary64

/-!
# The shortest decimal of a double

A double is written with the fewest significant digits that read back as the same double, and of
several decimals with that many digits the one nearest to the value. Exponents from `-4` to `15`
are written positionally, with `.0` after a whole number; any other in the form `d.ddde±xx`.
-/

namespace FederatedLogin.Binary64

/-- The place of the leading digit of `n / d`: the greatest `k` with `10 ^ k ≤ n / d`. -/
def leadingPlace (n d : Nat) : Int :=
  if d ≤ n then (Nat.toDigits 10 (n / d)).length - 1
  else
    -- the least power of ten that lifts the fraction to one
    let k := (Nat.toDigits 10 (d / n)).length - 1
    if d ≤ n * Nat.pow 10 k then -(k : Int) else -(k + 1 : Int)

/-- A decimal with `count` digits next to `n / d` that reads back as the double, nearest first. -/
def withDigits? (m : Nat) (e : Int) (count : Nat) : Option (Nat × Int) :=
  let (n, d) := ratio m e
  let place := leadingPlace n d - (count - 1 : Int)
  let (n, d) :=
    if 0 ≤ place then (n, d * Nat.pow 10 place.toNat) else (n * Nat.pow 10 (-place).toNat, d)
  let below := n / d
  let r := n % d
  let above := below + 1
  let near := if 2 * r < d then [below, above]
    else if d < 2 * r then [above, below]
    else if below % 2 = 0 then [below, above] else [above, below]
  (near.find? fun c => ofDecimal false c place == finite false m e).map (·, place)

/-- The digits and the place of the last one, for the first count of digits that reads back. -/
def shortest (m : Nat) (e : Int) : Nat × Int :=
  match (List.range 17).findSome? fun k => withDigits? m e (k + 1) with
  | some r => r
  | none => (m, e)

/-- Drop the zeros at the end of a whole number, raising the place for each. -/
def dropZeros : Nat → Nat → Int → Nat × Int
  | 0, n, place => (n, place)
  | fuel + 1, n, place =>
    if n % 10 = 0 ∧ n ≠ 0 then dropZeros fuel (n / 10) (place + 1) else (n, place)

/-- Write digits whose last one stands at `place`. -/
def layout (digits : List Char) (place : Int) : List Char :=
  let count : Int := digits.length
  let exponent := place + count - 1
  if -4 ≤ exponent ∧ exponent < 16 then
    if 0 ≤ place then digits ++ List.replicate place.toNat '0' ++ ['.', '0']
    else if 0 ≤ exponent then
      digits.take (exponent + 1).toNat ++ '.' :: digits.drop (exponent + 1).toNat
    else '0' :: '.' :: List.replicate (-exponent - 1).toNat '0' ++ digits
  else
    let mantissa := match digits with
      | [] => []
      | [c] => [c]
      | c :: rest => c :: '.' :: rest
    let power := Nat.toDigits 10 exponent.natAbs
    mantissa ++ 'e' :: (if exponent < 0 then '-' else '+') ::
      (if power.length < 2 then '0' :: power else power)

/-- The text of a double. -/
def text : Binary64 → String
  | nan => "nan"
  | infinity negative => if negative then "-inf" else "inf"
  | finite negative m e =>
    let sign := if negative then "-" else ""
    if m = 0 then sign ++ "0.0"
    else
      let (digits, place) := shortest m e
      let (digits, place) := dropZeros 400 digits place
      sign ++ String.ofList (layout (Nat.toDigits 10 digits) place)

example : (ofDecimal false 1 (-1)).text = "0.1" := by decide +kernel
example : (ofDecimal false 1 16).text = "1e+16" ∧ (ofDecimal true 25 (-1)).text = "-2.5" := by
  decide +kernel
example : (ofDecimal false 5 (-324)).text = "5e-324" ∧ (ofDecimal false 100 0).text = "100.0" := by
  decide +kernel

end FederatedLogin.Binary64
