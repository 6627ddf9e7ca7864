import SqlClient.Number.FloatFormat

/-!
# Shortest decimal digits

The decimal that stands for a float is the one with the fewest digits among those that read back as
the float, and the nearest to it among these. It is found by trying one digit, two digits and so on:
if any decimal of that length reads back, so does one of the two next to the float.
-/

namespace SqlClient

/-- The number `digits * 10 ^ exponent`. -/
structure ScaledDigits where
  digits : Nat
  exponent : Int
  deriving DecidableEq

/-- Which of two equally near decimals stands for a float. -/
inductive Tie where
  | up
  | even
  deriving DecidableEq

/-- The fractions `low / den`, `value / den` and `high / den`: a float and the bounds of what rounds
to it. The bounds themselves round to it if `closed`. -/
structure RoundingInterval where
  low : Nat
  value : Nat
  high : Nat
  den : Nat
  closed : Bool
  deriving DecidableEq

namespace RoundingInterval

/-- The interval of the positive float `significand * 2 ^ exponent`. Below a power of two the floats
are twice as dense. -/
def of (f : FloatFormat) (significand : Nat) (exponent : Int) : RoundingInterval :=
  let unit := Nat.pow 2 (exponent - 2).toNat
  let below := if significand = f.hidden ∧ f.minExponent < exponent then 1 else 2
  ⟨(4 * significand - below) * unit, 4 * significand * unit, (4 * significand + 2) * unit,
    Nat.pow 2 (2 - exponent).toNat, significand % 2 == 0⟩

/-- Whether the fraction `num / (den * unit)` is in the interval scaled by `1 / unit`. -/
def contains (i : RoundingInterval) (scale point : Nat) : Bool :=
  if i.closed then i.low * scale ≤ point && point ≤ i.high * scale
  else i.low * scale < point && point < i.high * scale

/-- The multiple of `10 ^ exponent` next to the value that rounds to it, if one does. -/
def onGrid? (tie : Tie) (i : RoundingInterval) (exponent : Int) : Option Nat :=
  let unit := i.den * Nat.pow 10 exponent.toNat
  let scale := Nat.pow 10 (-exponent).toNat
  let below := i.value * scale / unit
  let rest := i.value * scale % unit
  let belowHits := i.contains scale (below * unit)
  let aboveHits := i.contains scale ((below + 1) * unit)
  let belowNearer :=
    2 * rest < unit || 2 * rest == unit && (tie == .even && below % 2 == 0)
  if belowHits && (belowNearer || !aboveHits) then some below
  else if aboveHits then some (below + 1)
  else none

/-- The least `e` with `value / den < 10 ^ e`, or one more. -/
def magnitude (i : RoundingInterval) : Int :=
  if i.den ≤ i.value then (Nat.toDigits 10 (i.value / i.den)).length
  else 1 - ((Nat.toDigits 10 (i.den / i.value)).length : Int) + 1

/-- Tries grids, each ten times as fine as the one before. -/
def search (tie : Tie) (i : RoundingInterval) (exponent : Int) : Nat → ScaledDigits
  | 0 => ⟨i.value * Nat.pow 10 (-exponent).toNat / (i.den * Nat.pow 10 exponent.toNat), exponent⟩
  | tries + 1 =>
    match i.onGrid? tie exponent with
    | some digits => ⟨digits, exponent⟩
    | none => search tie i (exponent - 1) tries

end RoundingInterval

/-- The same number without zeros at the end of its digits. -/
def ScaledDigits.strip (d : ScaledDigits) : ScaledDigits :=
  if h : d.digits ≠ 0 ∧ d.digits % 10 = 0 then strip ⟨d.digits / 10, d.exponent + 1⟩ else d
termination_by d.digits
decreasing_by exact Nat.div_lt_self (by omega) (by decide)

/-- More digits than any float of the two formats needs. -/
def enoughDigits : Nat := 20

/-- The shortest decimal that stands for the positive float `significand * 2 ^ exponent`. -/
def shortestDigits (f : FloatFormat) (tie : Tie) (significand : Nat) (exponent : Int) :
    ScaledDigits :=
  if significand = 0 then ⟨0, 0⟩
  else
    let i := RoundingInterval.of f significand exponent
    (i.search tie (i.magnitude - 1) enoughDigits).strip

end SqlClient
