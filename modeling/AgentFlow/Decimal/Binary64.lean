/-!
Binary64 numbers as their sixty-four bits, with exact arithmetic.

A finite number is `significand * 2 ^ scale`. Every operation computes an exact quotient of
naturals and rounds it once, to the nearest number and on a tie to the one with the even
significand, so no statement about these numbers rests on machine arithmetic.

Two orders are defined. `totalKey` orders all bit patterns, NaNs included; `atMost` is the
comparison of values, in which a NaN is related to nothing and the two zeros are equal.
-/

namespace AgentFlow

def pow2 (n : Nat) : Nat := Nat.pow 2 n

def pow10 (n : Nat) : Nat := Nat.pow 10 n

/-- A number of the binary64 format, held as its bit pattern. -/
structure Binary64 where
  bits : UInt64
deriving DecidableEq, Repr, Inhabited

namespace Binary64

/-- The bit pattern of positive infinity, read as a natural number. -/
def infinityBits : Nat := 2047 * pow2 52

/-- All bits but the sign. -/
def magnitude (x : Binary64) : Nat := x.bits.toNat % pow2 63

def isNegative (x : Binary64) : Bool := pow2 63 ≤ x.bits.toNat

def isNaN (x : Binary64) : Bool := infinityBits < x.magnitude

def isInfinite (x : Binary64) : Bool := x.magnitude = infinityBits

def isFinite (x : Binary64) : Bool := x.magnitude < infinityBits

def isZero (x : Binary64) : Bool := x.magnitude = 0

def exponentField (x : Binary64) : Nat := x.magnitude / pow2 52

/-- The integer significand, with the hidden bit of a normal number. -/
def significand (x : Binary64) : Nat :=
  if x.exponentField = 0 then x.magnitude else pow2 52 + x.magnitude % pow2 52

/-- The power of two that the significand counts. -/
def scale (x : Binary64) : Int := (max x.exponentField 1 : Nat) - 1075

def ofMagnitude (negative : Bool) (magnitude : Nat) : Binary64 :=
  ⟨UInt64.ofNat ((if negative then pow2 63 else 0) + magnitude)⟩

def zero : Binary64 := ofMagnitude false 0

def infinity (negative : Bool) : Binary64 := ofMagnitude negative infinityBits

/-- The quiet NaN with an empty payload. -/
def nan (negative : Bool) : Binary64 := ofMagnitude negative (infinityBits + pow2 51)

def negate (x : Binary64) : Binary64 := ofMagnitude (!x.isNegative) x.magnitude

/-! ### Rounding -/

/-- The natural number nearest to `num / den`, the even one on a tie. -/
def roundHalfEven (num den : Nat) : Nat :=
  let quotient := num / den
  let rest := num % den
  if 2 * rest < den then quotient
  else if den < 2 * rest then quotient + 1
  else if quotient % 2 = 0 then quotient else quotient + 1

/-- The quotient `num / den` times `2 ^ shift`, as a fraction of naturals. -/
def shifted (num den : Nat) (shift : Int) : Nat × Nat :=
  if 0 ≤ shift then (num * pow2 shift.toNat, den) else (num, den * pow2 (-shift).toNat)

/-- The exponent of the greatest power of two that is at most `num / den`. -/
def binaryExponent (num den : Nat) : Int :=
  let guess : Int := (num.log2 : Int) - den.log2
  let (n, d) := shifted num den (-guess)
  if n < d then guess - 1 else guess

/-- The number nearest to `num / den`, with the given sign. -/
def ofRatio (negative : Bool) (num den : Nat) : Binary64 :=
  if num = 0 then ofMagnitude negative 0
  else
    let unit := max (binaryExponent num den - 52) (-1074)
    let (n, d) := shifted num den (-unit)
    let magnitude := (unit + 1074).toNat * pow2 52 + roundHalfEven n d
    ofMagnitude negative (min magnitude infinityBits)

def ofNat (n : Nat) : Binary64 := ofRatio false n 1

def ofInt (n : Int) : Binary64 := ofRatio (n < 0) n.natAbs 1

/-- The magnitude of a finite number as a fraction of naturals. -/
def ratio (x : Binary64) : Nat × Nat := shifted x.significand 1 x.scale

def mul (x y : Binary64) : Binary64 :=
  ofRatio (x.isNegative != y.isNegative) (x.ratio.1 * y.ratio.1) (x.ratio.2 * y.ratio.2)

/-- The rounded quotient of two finite numbers, the second not zero. -/
def div (x y : Binary64) : Binary64 :=
  ofRatio (x.isNegative != y.isNegative) (x.ratio.1 * y.ratio.2) (x.ratio.2 * y.ratio.1)

/-! ### Orders -/

/-- Sorts every bit pattern: negative NaNs first, then the numbers by value with `-0` before `0`,
then positive NaNs. -/
def totalKey (x : Binary64) : Int :=
  if x.isNegative then -(x.magnitude : Int) - 1 else x.magnitude

def totalCompare (x y : Binary64) : Ordering := compare x.totalKey y.totalKey

/-- Sorts the numbers by value; the two zeros share a key. -/
def valueKey (x : Binary64) : Int :=
  if x.isNegative then -(x.magnitude : Int) else x.magnitude

/-- Comparison of values: a NaN is below nothing and above nothing. -/
def atMost (x y : Binary64) : Bool := !x.isNaN && !y.isNaN && x.valueKey ≤ y.valueKey

/-- Equality of values: a NaN differs from itself, and the two zeros are equal. -/
def sameValue (x y : Binary64) : Bool := !x.isNaN && !y.isNaN && x.valueKey = y.valueKey

instance : OfNat Binary64 n := ⟨ofNat n⟩

end Binary64

end AgentFlow
