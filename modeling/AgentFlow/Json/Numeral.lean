import AgentFlow.Json.Basic
import AgentFlow.Decimal.Literal

/-!
Number literals of JSON text.

A literal without fraction and exponent that fits sixty-four bits is an integer. Any other literal
is read through its first digits that fit a natural number below `2 ^ 64`: later digits of the whole
part only raise the power of ten, and later digits of the fraction are dropped. The digits are then
rounded, and the product with the power of ten, or the quotient by it, is rounded again.
-/

namespace AgentFlow.Json

open Decimal

/-- A literal taken apart; the exponent is its sign and its digits. -/
structure Numeral where
  negative : Bool
  whole : List Char
  fraction : Option (List Char)
  exponent : Option (Bool × List Char)
deriving DecidableEq, Repr

namespace Numeral

/-- The fraction after a point, with at least one digit. -/
def fraction? : List Char → Option (Option (List Char) × List Char)
  | '.' :: cs =>
    let ds := cs.takeWhile isDigit
    if ds.isEmpty then none else some (some ds, cs.dropWhile isDigit)
  | cs => some (none, cs)

/-- The exponent that ends a literal, with at least one digit. -/
def power? : List Char → Option (Option (Bool × List Char))
  | [] => some none
  | c :: cs =>
    let (negative, ds) := splitSign cs
    if (c = 'e' || c = 'E') && !ds.isEmpty && ds.all isDigit then some (some (negative, ds)) else none

/-- Reads a whole literal; a leading zero stands alone. -/
def ofChars? (cs : List Char) : Option Numeral := do
  let (negative, cs) := match cs with
    | '-' :: rest => (true, rest)
    | _ => (false, cs)
  let whole := cs.takeWhile isDigit
  guard (whole = ['0'] || (!whole.isEmpty && whole.head? ≠ some '0'))
  let (fraction, rest) ← fraction? (cs.dropWhile isDigit)
  let exponent ← power? rest
  return { negative, whole, fraction, exponent }

/-- Reads digits while the number stays below `2 ^ 64`, and returns the digits left over. -/
def gather : Nat → List Char → Nat × List Char
  | n, [] => (n, [])
  | n, d :: ds =>
    let next := 10 * n + digitValue d
    if next < pow2 64 then gather next ds else (n, d :: ds)

/-- A rounded number times `10 ^ exponent`, with one more rounding for each factor of at most
`10 ^ 308`; a product too large for the format is refused. -/
def scaled (x : Binary64) (exponent : Int) : Option Binary64 :=
  if 308 < exponent then if x.isZero then some x else none
  else if 0 ≤ exponent then
    let y := x.mul (.ofNat (pow10 exponent.toNat))
    if y.isInfinite then none else some y
  else if -308 ≤ exponent then some (x.div (.ofNat (pow10 (-exponent).toNat)))
  else if -616 ≤ exponent then
    some ((x.div (.ofNat (pow10 308))).div (.ofNat (pow10 (-exponent - 308).toNat)))
  else some .zero

def power (n : Numeral) : Int :=
  match n.exponent with
  | none => 0
  | some (true, ds) => -(natOf ds : Int)
  | some (false, ds) => natOf ds

def magnitude (n : Numeral) : Option Binary64 :=
  let (leading, late) := gather 0 n.whole
  let fraction := n.fraction.getD []
  let (digits, dropped) := gather leading fraction
  let places : Int := fraction.length - dropped.length
  scaled (.ofNat digits) (late.length - places + n.power)

/-- The integer a literal denotes, if it is written as one and fits. Negative zero is no integer. -/
def integer? (n : Numeral) : Option Int :=
  let value := natOf n.whole
  if n.fraction.isSome || n.exponent.isSome then none
  else if n.negative then if 0 < value ∧ value ≤ pow2 63 then some (-value) else none
  else if value < pow2 64 then some value else none

def toNumber? (n : Numeral) : Option Number :=
  match n.integer? with
  | some i => some (.int i)
  | none => n.magnitude.map fun x => .real (if n.negative then x.negate else x)

end Numeral

end AgentFlow.Json
