import SqlClient.Number.Decimal

/-!
# Decimals and floats

A float that is an integer becomes that integer, if it has at most 96 bits. Any other float trades its
factors of one half for tenths inside 96 bits, then gives up digits after the point until no more are
left than the float is good for. A decimal becomes a float
by way of its integer part and its fraction, rounded at the scale of the decimal.
-/

namespace SqlClient.Decimal

/-- A mantissa of at most 96 bits with a power of ten. -/
structure Scaling where
  mantissa : Nat
  exponent : Int

namespace Scaling

/-- Takes out `halvings` factors of one half: an even mantissa is halved, an odd one is multiplied by
five while it fits and halved where it does not. -/
def halve (s : Scaling) : Nat → Scaling
  | 0 => s
  | halvings + 1 =>
    if s.mantissa % 2 = 1 ∧ s.mantissa * 5 < mantissaLimit then
      halve ⟨s.mantissa * 5, s.exponent⟩ halvings
    else halve ⟨s.mantissa / 2, s.exponent + 1⟩ halvings

/-- The mantissa divided by ten, a half rounded up. -/
def dropDigit (s : Scaling) : Scaling :=
  ⟨s.mantissa / 10 + if 5 ≤ s.mantissa % 10 then 1 else 0, s.exponent + 1⟩

/-- Gives up digits after the point until at most `maxScale` are left; a mantissa that would vanish is
zero without any. -/
def limitScale (s : Scaling) : Nat → Scaling
  | 0 => s
  | digits + 1 => if s.mantissa < 10 then ⟨0, 0⟩ else limitScale s.dropDigit digits

/-- Gives up digits after the point while the mantissa reaches `limit`. -/
def limitPrecision (limit : Nat) (s : Scaling) : Nat → Scaling
  | 0 => s
  | digits + 1 => if limit ≤ s.mantissa then limitPrecision limit s.dropDigit digits else s

/-- Gives up zeros at the end after the point. -/
def stripZeros (s : Scaling) : Nat → Scaling
  | 0 => s
  | digits + 1 =>
    if s.mantissa % 10 = 0 then stripZeros ⟨s.mantissa / 10, s.exponent + 1⟩ digits else s

/-- The power of ten below zero, as a number of digits. -/
def places (s : Scaling) : Nat := (-s.exponent).toNat

end Scaling

/-- The decimal of `significand * 2 ^ exponent`, with a mantissa below `limit` where it has digits
after the point. -/
def ofBinary? (limit : Nat) (negative : Bool) (significand : Nat) (exponent : Int) :
    Option Decimal :=
  if significand = 0 then ofParts? negative 0 0
  else if 0 ≤ exponent then ofParts? negative (significand * Nat.pow 2 exponent.toNat) 0
  else
    let s := Scaling.halve ⟨significand, exponent⟩ (-exponent).toNat
    let s := s.limitScale (s.places - maxScale)
    let s := s.limitPrecision limit s.places
    let s := s.stripZeros s.places
    ofParts? negative s.mantissa s.places

/-- The decimal that a taken-apart float becomes. -/
def ofUnpacked? (limit : Nat) : Unpacked → Option Decimal
  | .finite negative significand exponent => ofBinary? limit negative significand exponent
  | _ => none

/-- The decimal of a `Float`, if it is a number in range. -/
def ofFloat? (x : Float) : Option Decimal := ofUnpacked? 4503599627370496 (unpackFloat x)

/-- The decimal of a `Float32`, if it is a number in range. -/
def ofFloat32? (x : Float32) : Option Decimal := ofUnpacked? 16777216 (unpackFloat32 x)

/-- The decimal as a float. -/
def toFloat (d : Decimal) : Float :=
  let unit := Nat.pow 10 d.scale
  let whole := nearestFloat false (d.mantissa / unit) 0
  let fraction := nearestFloat false (d.mantissa % unit) 0 / nearestFloat false unit 0
  if d.scale = 0 then (if d.negative && d.mantissa != 0 then -whole else whole)
  else
    let size :=
      if d.mantissa % unit = 0 then whole
      else
        let shift := nearestFloat false unit 0
        ((whole + fraction) * shift).round / shift
    if d.negative then -size else size

end SqlClient.Decimal
