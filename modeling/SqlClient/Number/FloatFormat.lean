/-!
# Binary floating point

A finite float is a significand times a power of two. This module takes the bit patterns of the two
interchange formats apart and finds the float nearest to a fraction, both in exact arithmetic.
-/

namespace SqlClient

/-- The widths of the fraction and exponent fields of a format. -/
structure FloatFormat where
  fractionBits : Nat
  exponentBits : Nat
  deriving DecidableEq

/-- A float, taken apart. -/
inductive Unpacked where
  | nan
  | infinite (negative : Bool)
  /-- The number `significand * 2 ^ exponent` under its sign. -/
  | finite (negative : Bool) (significand : Nat) (exponent : Int)
  deriving DecidableEq

namespace FloatFormat

/-- The format of `Float`. -/
def binary64 : FloatFormat := ⟨52, 11⟩

/-- The format of `Float32`. -/
def binary32 : FloatFormat := ⟨23, 8⟩

/-- The exponent of the last bit of the smallest floats. -/
def minExponent (f : FloatFormat) : Int :=
  2 - (Nat.pow 2 (f.exponentBits - 1) : Nat) - f.fractionBits

/-- The significand that marks the start of a new exponent. -/
def hidden (f : FloatFormat) : Nat := Nat.pow 2 f.fractionBits

/-- The bit pattern of positive infinity. -/
def infinity (f : FloatFormat) : Nat := (Nat.pow 2 f.exponentBits - 1) * f.hidden

/-- The float that a bit pattern stands for. -/
def unpack (f : FloatFormat) (bits : Nat) : Unpacked :=
  let negative := bits / (f.hidden * Nat.pow 2 f.exponentBits) % 2 == 1
  let biased := bits / f.hidden % Nat.pow 2 f.exponentBits
  let fraction := bits % f.hidden
  if biased = Nat.pow 2 f.exponentBits - 1 then
    if fraction = 0 then .infinite negative else .nan
  else if biased = 0 then .finite negative fraction f.minExponent
  else .finite negative (f.hidden + fraction) (f.minExponent + biased - 1)

/-- The bit pattern of the positive float `significand * 2 ^ exponent`, for a significand that is
normal at this exponent or an exponent that is the least. A significand of one bit more moves on to
the next exponent by itself. -/
def pack (f : FloatFormat) (significand : Nat) (exponent : Int) : Nat :=
  if significand < f.hidden then significand
  else min f.infinity ((exponent - f.minExponent).toNat * f.hidden + significand)

/-- The integer nearest to a fraction; of two equally near the even one. -/
def roundHalfEven (num den : Nat) : Nat :=
  let below := num / den
  let rest := 2 * (num % den)
  if rest < den ∨ rest = den ∧ below % 2 = 0 then below else below + 1

/-- The quotient of `num` and `den * 2 ^ exponent`, as a fraction. -/
def scaleDown (num den : Nat) (exponent : Int) : Nat × Nat :=
  (num * Nat.pow 2 (-exponent).toNat, den * Nat.pow 2 exponent.toNat)

/-- The bit pattern of the positive float nearest to a positive fraction; of two equally near the one
with the even significand. -/
def nearest (f : FloatFormat) (num den : Nat) : Nat :=
  let guess : Int := (num.log2 : Int) - den.log2 - f.fractionBits - 1
  let (n, d) := scaleDown num den guess
  let exponent := max f.minExponent (if n < d * (2 * f.hidden) then guess else guess + 1)
  let (n, d) := scaleDown num den exponent
  f.pack (roundHalfEven n d) exponent

/-- Decimal orders of magnitude beyond which every float is zero or infinite. -/
def decimalRange : Int := 400

/-- The bit pattern of the positive float nearest to `mantissa * 10 ^ exponent`. -/
def nearestDecimal (f : FloatFormat) (mantissa : Nat) (exponent : Int) : Nat :=
  let magnitude : Int := (Nat.toDigits 10 mantissa).length + exponent
  if mantissa = 0 ∨ magnitude < -decimalRange then 0
  else if magnitude > decimalRange then f.infinity
  else f.nearest (mantissa * Nat.pow 10 exponent.toNat) (Nat.pow 10 (-exponent).toNat)

end FloatFormat

/-- The float taken apart. -/
def unpackFloat (x : Float) : Unpacked := FloatFormat.binary64.unpack x.toBits.toNat

/-- The float taken apart. -/
def unpackFloat32 (x : Float32) : Unpacked := FloatFormat.binary32.unpack x.toBits.toNat

/-- The float nearest to `mantissa * 10 ^ exponent` under its sign. -/
def nearestFloat (negative : Bool) (mantissa : Nat) (exponent : Int) : Float :=
  let x := Float.ofBits (.ofNat (FloatFormat.binary64.nearestDecimal mantissa exponent))
  if negative then -x else x

/-- The integer part of a float, if there is one. -/
def truncFloat? (x : Float) : Option Int :=
  match unpackFloat x with
  | .finite negative significand exponent =>
    let size := significand * Nat.pow 2 exponent.toNat / Nat.pow 2 (-exponent).toNat
    some (if negative then -size else size)
  | _ => none

end SqlClient
