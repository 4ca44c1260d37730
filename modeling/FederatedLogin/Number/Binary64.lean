/-!
# Double-precision numbers

A finite double is `mantissa · 2 ^ exponent` with a sign, in the one form in which the mantissa is
at least `2 ^ 52` unless the exponent is the least, `-1074`. A decimal is read as the nearest
double, a tie going to the even mantissa; all arithmetic is exact, on natural numbers.
-/

namespace FederatedLogin

/-- A double-precision number. -/
inductive Binary64 where
  | nan
  | infinity (negative : Bool)
  | finite (negative : Bool) (mantissa : Nat) (exponent : Int)
  deriving DecidableEq, Repr, Inhabited

namespace Binary64

/-- Zero, without a sign. -/
def zero : Binary64 := finite false 0 (-1074)

/-- The least exponent, that of the numbers nearest to zero. -/
def minExponent : Int := -1074

/-- The greatest exponent of a finite number. -/
def maxExponent : Int := 971

/-- The quotient rounded to the nearest whole number, a half going to the even one. -/
def roundHalfEven (num den : Nat) : Nat :=
  let q := num / den
  let r := num % den
  if 2 * r < den then q
  else if den < 2 * r then q + 1
  else if q % 2 = 0 then q else q + 1

/-- The numerator and denominator of `n / d / 2 ^ e`. -/
def scaled (n d : Nat) (e : Int) : Nat × Nat :=
  if 0 ≤ e then (n, d * Nat.pow 2 e.toNat) else (n * Nat.pow 2 (-e).toNat, d)

/-- The double nearest to `n / d`, for a positive `d`. -/
def ofRatio (negative : Bool) (n d : Nat) : Binary64 :=
  if n = 0 then finite negative 0 minExponent
  else
    let guess : Int := (n.log2 : Int) - (d.log2 : Int) - 52
    let top := scaled n d guess
    -- the quotient of the logarithms is at most one too large
    let e := if top.1 < top.2 * Nat.pow 2 52 then guess - 1 else guess
    let e := max e minExponent
    let s := scaled n d e
    let m := roundHalfEven s.1 s.2
    let (m, e) := if m = Nat.pow 2 53 then (Nat.pow 2 52, e + 1) else (m, e)
    if maxExponent < e then infinity negative else finite negative m e

/-- The double nearest to `digits · 10 ^ exponent`. -/
def ofDecimal (negative : Bool) (digits : Nat) (exponent : Int) : Binary64 :=
  if digits = 0 then finite negative 0 minExponent
  else
    let magnitude := (Nat.toDigits 10 digits).length + exponent
    if 310 < magnitude then infinity negative
    else if magnitude < -330 then finite negative 0 minExponent
    else if 0 ≤ exponent then ofRatio negative (digits * Nat.pow 10 exponent.toNat) 1
    else ofRatio negative digits (Nat.pow 10 (-exponent).toNat)

/-- The value of a finite number as a fraction, without its sign. -/
def ratio (mantissa : Nat) (exponent : Int) : Nat × Nat :=
  if 0 ≤ exponent then (mantissa * Nat.pow 2 exponent.toNat, 1)
  else (mantissa, Nat.pow 2 (-exponent).toNat)

/-- The whole part of a finite number, its fraction dropped. -/
def truncate? : Binary64 → Option Int
  | finite negative m e =>
    let r := ratio m e
    let n : Int := (r.1 / r.2 : Nat)
    some (if negative then -n else n)
  | _ => none

/-- The whole number that the double equals, if there is one. -/
def whole? : Binary64 → Option Int
  | finite negative m e =>
    let r := ratio m e
    if r.1 % r.2 = 0 then some (if negative then -((r.1 / r.2 : Nat) : Int) else (r.1 / r.2 : Nat))
    else none
  | _ => none

example : ofDecimal false 1 0 = finite false (Nat.pow 2 52) (-52) := by decide +kernel
example : ofDecimal false 5 (-324) = finite false 1 (-1074) := by decide +kernel
example : ofDecimal false 18 307 = infinity false ∧ ofDecimal true 0 5 = finite true 0 (-1074) := by
  decide +kernel

end Binary64

end FederatedLogin
