import AgentFlow.Decimal.Shortest

/-!
Reading decimal text.

`ofDecimal` rounds `digits * 10 ^ exponent` once. `Binary64.parse?` reads the free notation of
form fields: an optional sign, then digits with an optional point and exponent, or one of the words
`inf`, `infinity` and `nan` in any case.
-/

namespace AgentFlow

namespace Decimal

def isDigit (c : Char) : Bool := '0' ≤ c && c ≤ '9'

def digitValue (c : Char) : Nat := c.toNat - 48

def natOf (ds : List Char) : Nat := ds.foldl (fun n c => 10 * n + digitValue c) 0

def splitSign : List Char → Bool × List Char
  | '-' :: cs => (true, cs)
  | '+' :: cs => (false, cs)
  | cs => (false, cs)

/-- An exponent mark with its number, or nothing at all. -/
def exponent? : List Char → Option Int
  | [] => some 0
  | c :: cs =>
    let (negative, ds) := splitSign cs
    if (c = 'e' || c = 'E') && !ds.isEmpty && ds.all isDigit then
      some (if negative then -(natOf ds : Int) else natOf ds)
    else none

end Decimal

namespace Binary64

open Decimal

/-- The number nearest to `digits * 10 ^ exponent`. Far outside the range of the format the power
of ten is not computed. -/
def ofDecimal (negative : Bool) (digits : Nat) (exponent : Int) : Binary64 :=
  let top := (digitsOf digits).length + exponent
  if digits = 0 ∨ top < -330 then ofMagnitude negative 0
  else if 310 < top then infinity negative
  else if 0 ≤ exponent then ofRatio negative (digits * pow10 exponent.toNat) 1
  else ofRatio negative digits (pow10 (-exponent).toNat)

/-- Digits with an optional point and exponent; at least one digit stands before the exponent. -/
def unsigned? (negative : Bool) (cs : List Char) : Option Binary64 :=
  let whole := cs.takeWhile isDigit
  let rest := cs.dropWhile isDigit
  let (fraction, rest) := match rest with
    | '.' :: more => (more.takeWhile isDigit, more.dropWhile isDigit)
    | _ => ([], rest)
  if whole.isEmpty && fraction.isEmpty then none
  else (exponent? rest).map fun e =>
    ofDecimal negative (natOf (whole ++ fraction)) (e - fraction.length)

/-- The number a form field spells. -/
def parse? (text : List Char) : Option Binary64 :=
  let (negative, cs) := splitSign text
  let word := cs.map Char.toLower
  if word = "inf".toList || word = "infinity".toList then some (infinity negative)
  else if word = "nan".toList then some (nan negative)
  else unsigned? negative cs

end Binary64

end AgentFlow
