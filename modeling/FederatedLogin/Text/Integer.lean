import FederatedLogin.Text.Blank
import FederatedLogin.Text.Digit

/-!
# Whole numbers in running text

A whole number may have spacing around it, a sign, and single underscores between its digits; its
decimal digits may come from any script. In base sixteen it may start with `0x`.
-/

namespace FederatedLogin.Text

/-- The value of a digit: a decimal digit of any script, or an ASCII letter from ten on. -/
def digitIn? (base : Nat) (c : Char) : Option Nat :=
  let v :=
    match digitValue? c with
    | some n => some n
    | none =>
      if 'a' ≤ c ∧ c ≤ 'z' then some (c.toNat - 87)
      else if 'A' ≤ c ∧ c ≤ 'Z' then some (c.toNat - 55)
      else none
  v.filter (· < base)

/-- Digits up to the end, after digits with the value `n`. -/
def digitsAfter (base n : Nat) : List Char → Option Nat
  | [] => some n
  | '_' :: c :: rest => (digitIn? base c).bind fun v => digitsAfter base (n * base + v) rest
  | c :: rest => (digitIn? base c).bind fun v => digitsAfter base (n * base + v) rest

/-- Digits up to the end, at least one. -/
def digitsOf? (base : Nat) : List Char → Option Nat
  | [] => none
  | c :: rest => (digitIn? base c).bind fun v => digitsAfter base v rest

/-- Drop the mark of base sixteen, and an underscore after it. -/
def dropBaseMark (base : Nat) (s : List Char) : List Char :=
  match base, s with
  | 16, '0' :: 'x' :: '_' :: rest => rest
  | 16, '0' :: 'X' :: '_' :: rest => rest
  | 16, '0' :: 'x' :: rest => rest
  | 16, '0' :: 'X' :: rest => rest
  | _, s => s

/-- The whole number that a text spells in a base. -/
def integer? (base : Nat) (s : List Char) : Option Int :=
  match stripBy isSpacing s with
  | '-' :: rest => (digitsOf? base (dropBaseMark base rest)).map fun n => -(n : Int)
  | '+' :: rest => (digitsOf? base (dropBaseMark base rest)).map Int.ofNat
  | rest => (digitsOf? base (dropBaseMark base rest)).map Int.ofNat

end FederatedLogin.Text
