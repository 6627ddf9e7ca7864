import SqlClient.Number.Checked
import SqlClient.Number.Shortest
import SqlClient.Text.Digits

/-!
# Floats as text

Floats are written positionally with the shortest digits that read back, without a point where there
is no fraction. They are read from decimal text with an optional exponent, and from the usual names of
infinity and of what is no number.
-/

namespace SqlClient

/-- The digits of a number written out, with zeros and a point as its exponent demands. -/
def ScaledDigits.positional (d : ScaledDigits) : String :=
  let ds := Nat.toDigits 10 d.digits
  if 0 ≤ d.exponent then String.ofList (ds ++ List.replicate d.exponent.toNat '0')
  else
    let places := (-d.exponent).toNat
    let filled := List.replicate (places + 1 - ds.length) '0' ++ ds
    let whole := filled.length - places
    String.ofList (filled.take whole ++ '.' :: filled.drop whole)

namespace FloatText

/-- The text of a float. -/
def ofUnpacked (f : FloatFormat) : Unpacked → String
  | .nan => "NaN"
  | .infinite negative => if negative then "-inf" else "inf"
  | .finite negative significand exponent =>
    let size := (shortestDigits f .up significand exponent).positional
    if negative then "-" ++ size else size

/-- The text of a `Float`. -/
def ofFloat (x : Float) : String := ofUnpacked .binary64 (unpackFloat x)

/-- The text of a `Float32`. -/
def ofFloat32 (x : Float32) : String := ofUnpacked .binary32 (unpackFloat32 x)

/-- A decimal exponent with its letter, or nothing. -/
def exponent? : List Char → Option Int
  | [] => some 0
  | e :: rest =>
    let (negative, ds) :=
      match rest with
      | '-' :: ds => (true, ds)
      | '+' :: ds => (false, ds)
      | ds => (false, ds)
    if (e == 'e' || e == 'E') && !ds.isEmpty && ds.all Char.isDigit then
      let size : Int := Nat.ofDigitChars 10 ds 0
      some (if negative then -size else size)
    else none

/-- Digits with an optional point among them, at least one digit, and an optional exponent: mantissa
and exponent of the number. -/
def decimal? (cs : List Char) : Option (Nat × Int) :=
  let whole := cs.takeWhile Char.isDigit
  let (fraction, rest) :=
    match cs.drop whole.length with
    | '.' :: more => (more.takeWhile Char.isDigit, more.dropWhile Char.isDigit)
    | more => ([], more)
  if whole.isEmpty && fraction.isEmpty then none
  else do
    let exponent ← exponent? rest
    some (Nat.ofDigitChars 10 (whole ++ fraction) 0, exponent - fraction.length)

/-- A float without its sign. -/
def magnitude? (cs : List Char) : Option (Bool → Float) :=
  match decimal? cs with
  | some (mantissa, exponent) => some fun negative => nearestFloat negative mantissa exponent
  | none =>
    let name := String.ofList (cs.map Char.toLower)
    if name = "inf" ∨ name = "infinity" then
      some fun negative => if negative then -1.0 / 0.0 else 1.0 / 0.0
    else if name = "nan" then some fun _ => 0.0 / 0.0
    else none

/-- The float that a text spells. -/
def parse? (s : String) : Option Float :=
  match s.toList with
  | '-' :: cs => (magnitude? cs).map (· true)
  | '+' :: cs => (magnitude? cs).map (· false)
  | cs => (magnitude? cs).map (· false)

end FloatText

/-- The 64-bit integer that a text spells: an optional sign and decimal digits. -/
def parseInt64? (s : String) : Option Int64 :=
  let read (cs : List Char) : Option Nat :=
    if !cs.isEmpty && cs.all Char.isDigit then some (Nat.ofDigitChars 10 cs 0) else none
  match s.toList with
  | '-' :: cs => (read cs).bind fun n => int64? (-n)
  | '+' :: cs => (read cs).bind fun n => int64? n
  | cs => (read cs).bind fun n => int64? n

end SqlClient
