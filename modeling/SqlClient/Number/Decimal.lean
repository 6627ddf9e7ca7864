import SqlClient.Number.FloatText
import SqlClient.Text.Digits

/-!
# Decimals

A decimal has a sign, a mantissa of 96 bits and up to 28 digits after the point. The digits after the
point are part of the value's text: `1.50` and `1.5` are the same number written at two scales.
-/

namespace SqlClient

/-- One more than the greatest mantissa of a decimal. -/
def mantissaLimit : Nat := 79228162514264337593543950336

/-- The most digits after the point of a decimal. -/
def maxScale : Nat := 28

/-- The number `mantissa / 10 ^ scale` under its sign. -/
structure Decimal where
  negative : Bool
  mantissa : Nat
  scale : Nat
  mantissa_lt : mantissa < mantissaLimit
  scale_le : scale ≤ maxScale
  deriving DecidableEq

namespace Decimal

/-- The decimal of these parts, if they are in range. -/
def ofParts? (negative : Bool) (mantissa scale : Nat) : Option Decimal :=
  if h : mantissa < mantissaLimit ∧ scale ≤ maxScale then
    some ⟨negative, mantissa, scale, h.1, h.2⟩
  else none

/-- The decimal of these parts, if they are in range; a zero has no sign. -/
def ofUnsignedZero? (negative : Bool) (mantissa scale : Nat) : Option Decimal :=
  ofParts? (negative && mantissa != 0) mantissa scale

/-- An integer as a decimal. -/
def ofInt64 (n : Int64) : Decimal :=
  ⟨decide (n < 0), n.toInt.natAbs, 0, by
    have := n.toInt_lt
    have := n.le_toInt
    unfold mantissaLimit; omega, by decide⟩

/-- The mantissa in digits with the point before the last `scale` of them. -/
def text (d : Decimal) : String :=
  let size := (ScaledDigits.mk d.mantissa (-(d.scale : Int))).positional
  if d.negative then "-" ++ size else size

/-- The integer part. -/
def trunc (d : Decimal) : Int :=
  let size : Int := (d.mantissa / Nat.pow 10 d.scale : Nat)
  if d.negative then -size else size

/-- The mantissa under its sign. -/
def signedMantissa (d : Decimal) : Int :=
  if d.negative then -d.mantissa else d.mantissa

/-- Equality of the numbers, whatever their scales. -/
def sameNumber (a b : Decimal) : Bool :=
  a.signedMantissa * (Nat.pow 10 b.scale : Nat) == b.signedMantissa * (Nat.pow 10 a.scale : Nat)

end Decimal

end SqlClient
