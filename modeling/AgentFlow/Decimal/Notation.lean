import AgentFlow.Decimal.Shortest

/-!
How a binary64 number is written.

`numeral` is the notation of JSON text: positional while the leading digit stands between `10 ^ -5`
and `10 ^ 15`, always with a point there, and with a signed exponent elsewhere. `plain` is the
notation of messages: always positional, and without a point when the number is whole. `fixed`
rounds the exact binary value to a number of places, a half going to the even neighbour.
-/

namespace AgentFlow.Decimal

def zeros (n : Nat) : List Char := List.replicate n '0'

/-- The digits of a number below one after the point, or of a larger one around it. The flag asks
for a final `.0` on a whole number. -/
def positional (point : Bool) (s : Scientific) : List Char :=
  let ds := s.chars
  if 0 ≤ s.exponent then
    ds ++ zeros s.exponent.toNat ++ (if point then ['.', '0'] else [])
  else
    let places := (-s.exponent).toNat
    if places < ds.length then
      ds.take (ds.length - places) ++ '.' :: ds.drop (ds.length - places)
    else
      '0' :: '.' :: zeros (places - ds.length) ++ ds

/-- One digit, the rest after a point, and the exponent with its sign. -/
def scientific (s : Scientific) : List Char :=
  let mantissa := match s.chars with
    | [] => []
    | [d] => [d]
    | d :: rest => d :: '.' :: rest
  let e := s.leading
  mantissa ++ 'e' :: (if 0 ≤ e then '+' else '-') :: digitsOf e.natAbs

def sign (negative : Bool) : List Char := if negative then ['-'] else []

end AgentFlow.Decimal

namespace AgentFlow

namespace Binary64

open Decimal

/-- The JSON text of a finite number. -/
def numeral (x : Binary64) : List Char :=
  sign x.isNegative ++
    if x.isZero then ['0', '.', '0']
    else
      let s := shortest .even x
      if -5 ≤ s.leading ∧ s.leading ≤ 15 then positional true s else scientific s

def special (x : Binary64) : String :=
  if x.isNaN then "NaN" else if x.isNegative then "-inf" else "inf"

/-- The text of a number in a message. -/
def plain (x : Binary64) : String :=
  if !x.isFinite then x.special
  else String.ofList (sign x.isNegative ++
    if x.isZero then ['0'] else positional false (shortest .up x))

/-- The text of a number rounded to `places` decimals. -/
def fixed (places : Nat) (x : Binary64) : String :=
  if !x.isFinite then x.special
  else
    let units := roundHalfEven (x.ratio.1 * pow10 places) x.ratio.2
    let ds := digitsOf units
    let ds := zeros (places + 1 - ds.length) ++ ds
    let whole := ds.take (ds.length - places)
    let fraction := ds.drop (ds.length - places)
    String.ofList (sign x.isNegative ++ whole ++ if places = 0 then [] else '.' :: fraction)

end Binary64

end AgentFlow
