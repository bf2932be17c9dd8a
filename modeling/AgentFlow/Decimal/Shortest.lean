import AgentFlow.Decimal.Binary64

/-!
The fewest decimal digits that read back as a given number.

The numbers that round to `x` fill an interval around it, whose ends belong to it when the
significand of `x` is even. On each decimal grid only the two neighbours of `x` have to be tried;
the coarsest grid with a neighbour inside the interval gives the digits, and of two such
neighbours the nearer one is taken.
-/

namespace AgentFlow.Decimal

/-- The decimal number `digits * 10 ^ exponent`. -/
structure Scientific where
  digits : Nat
  exponent : Int
deriving DecidableEq, Repr

/-- What to do when the two neighbours are equally near. -/
inductive Tie where
  | even
  | up
deriving DecidableEq, Repr

/-- The decimal digits of a natural number, most significant first; zero has one digit. -/
def digitsOf (n : Nat) : List Char := Nat.toDigits 10 n

namespace Scientific

/-- Moves trailing zeros of the digits into the exponent; the count bounds the moves. -/
def strip : Nat → Scientific → Scientific
  | 0, s => s
  | n + 1, s => if s.digits ≠ 0 ∧ s.digits % 10 = 0 then strip n ⟨s.digits / 10, s.exponent + 1⟩ else s

def chars (s : Scientific) : List Char := digitsOf s.digits

def leading (s : Scientific) : Int := s.exponent + s.chars.length - 1

end Scientific

/-- The quotient `num / den` divided by `10 ^ exponent`, as a fraction of naturals. -/
def descaled (num den : Nat) (exponent : Int) : Nat × Nat :=
  if 0 ≤ exponent then (num, den * pow10 exponent.toNat) else (num * pow10 (-exponent).toNat, den)

/-- The exponent of the greatest power of ten that is at most `num / den`. -/
def decimalExponent (num den : Nat) : Int :=
  let guess : Int := ((digitsOf num).length : Int) - (digitsOf den).length
  let (n, d) := descaled num den guess
  if n < d then guess - 1 else guess

/-- The interval of reals that round to a number, in units of `2 ^ (scale - 2)`. -/
structure Rounding where
  lower : Nat
  value : Nat
  upper : Nat
  closed : Bool

/-- The interval of a positive finite number. Below a power of two the numbers lie twice as
dense, so the lower end is nearer there. -/
def Rounding.around (x : Binary64) : Rounding :=
  let m := x.significand
  let narrow := m = pow2 52 ∧ 1 < x.exponentField
  ⟨4 * m - (if narrow then 1 else 2), 4 * m, 4 * m + 2, m % 2 = 0⟩

def Rounding.contains (r : Rounding) (digits num den : Nat) : Bool :=
  let point := digits * num
  if r.closed then r.lower * den ≤ point && point ≤ r.upper * den
  else r.lower * den < point && point < r.upper * den

/-- The digit count `n` at which the grid is fine enough, tried from `n` upwards. -/
def search (r : Rounding) (scale top : Int) (tie : Tie) : Nat → Nat → Scientific
  | 0, _ => ⟨0, 0⟩
  | fuel + 1, n =>
    let exponent := top - n + 1
    -- `num / den` is `10 ^ exponent` in the units of the interval
    let (p, q) := if 0 ≤ exponent then (pow10 exponent.toNat, 1) else (1, pow10 (-exponent).toNat)
    let (num, den) := Binary64.shifted p q (2 - scale)
    let below := r.value * den / num
    let lower := r.contains below num den
    let upper := r.contains (below + 1) num den
    let pick :=
      if lower && upper then
        let half := compare (2 * r.value * den) ((2 * below + 1) * num)
        match half, tie with
        | .lt, _ => some below
        | .gt, _ => some (below + 1)
        | .eq, .up => some (below + 1)
        | .eq, .even => some (if below % 2 = 0 then below else below + 1)
      else if lower then some below
      else if upper then some (below + 1)
      else none
    match pick with
    | some digits => Scientific.strip 20 ⟨digits, exponent⟩
    | none => search r scale top tie fuel (n + 1)

/-- The shortest digits of a positive finite number; seventeen always suffice. -/
def shortest (tie : Tie) (x : Binary64) : Scientific :=
  search (.around x) x.scale (decimalExponent x.ratio.1 x.ratio.2) tie 18 1

end AgentFlow.Decimal
