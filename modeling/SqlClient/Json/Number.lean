import SqlClient.Json.Blank
import SqlClient.Json.Value
import SqlClient.Number.FloatFormat

/-!
# Numbers of a document

A number is read from left to right. Its digits are collected as long as they fit 64 bits; digits that
no longer fit count only for the power of ten. A number with a point or an exponent is its digits as a
float, multiplied or divided by powers of ten of at most 308 one after another, each step rounding.
-/

namespace SqlClient.Json

/-- One more than the greatest collected digits. -/
def digitLimit : Nat := 18446744073709551616

/-- The greatest decimal exponent that is read as written. -/
def maxExponent : Nat := 2147483647

/-- The greatest power of ten used in one step. -/
def maxPower : Nat := 308

/-- A power of ten as a float. -/
def powerOfTen (n : Nat) : Float := nearestFloat false 1 n

/-- A float under its sign. -/
def signed (negative : Bool) (x : Float) : Float := if negative then -x else x

/-- The digits times a power of ten; `none` if that is too great for a float. -/
def scale? (x : Float) (exponent : Int) : Option Float :=
  if exponent.natAbs ≤ maxPower then
    if 0 ≤ exponent then
      let y := x * powerOfTen exponent.toNat
      if y.isInf then none else some y
    else some (x / powerOfTen exponent.natAbs)
  else if x == 0.0 then some x
  else if 0 ≤ exponent then none
  else scale? (x / powerOfTen maxPower) (exponent + maxPower)
termination_by exponent.natAbs
decreasing_by simp only [maxPower] at *; omega

/-- Ends a number with a power of ten. -/
def finishFloat (negative : Bool) (digits : Nat) (exponent : Int) : Reader JsonNumber := fun rest =>
  match scale? (nearestFloat false digits 0) exponent with
  | some x => .ok (.float (signed negative x), rest)
  | none => .error (.before .numberOutOfRange rest)

/-- The power of ten of an exponent and the places before it. -/
def power (places : Int) (down : Bool) (size : Nat) : Int :=
  if down then places - size else places + size

/-- Reads the digits of an exponent after the first one. An exponent that is too great makes the number
zero, or an error if it is positive and the number is not zero. -/
def readExponentDigits (negative : Bool) (digits : Nat) (places : Int) (down : Bool) (size : Nat) :
    Reader JsonNumber
  | [] => finishFloat negative digits (power places down size) []
  | c :: rest =>
    if c.isDigit then
      let size := size * 10 + (c.toNat - '0'.toNat)
      if maxExponent < size then
        if digits ≠ 0 ∧ !down then .error (.before .numberOutOfRange rest)
        else .ok (.float (signed negative 0.0), rest.dropWhile Char.isDigit)
      else readExponentDigits negative digits places down size rest
    else finishFloat negative digits (power places down size) (c :: rest)

/-- Reads an exponent after its letter. -/
def readExponent (negative : Bool) (digits : Nat) (places : Int) : Reader JsonNumber := fun cs =>
  let (down, cs) :=
    match cs with
    | '+' :: rest => (false, rest)
    | '-' :: rest => (true, rest)
    | rest => (false, rest)
  match cs with
  | [] => .error (.atNext .endInValue [])
  | c :: rest =>
    if c.isDigit then
      readExponentDigits negative digits places down (c.toNat - '0'.toNat) rest
    else .error (.atNext .badNumber (c :: rest))

/-- Reads what may follow the digits of a number that is not an integer. -/
def readScale (negative : Bool) (digits : Nat) (places : Int) : Reader JsonNumber
  | 'e' :: rest | 'E' :: rest => readExponent negative digits places rest
  | rest => finishFloat negative digits places rest

/-- Reads digits after the point, `read` of which have been read. -/
def readFraction (negative : Bool) (digits : Nat) (before : Int) (read : Nat) : Reader JsonNumber
  | [] =>
    if read = 0 then .error (.atNext .endInValue [])
    else readScale negative digits (before - read) []
  | c :: rest =>
    if c.isDigit then
      let more := digits * 10 + (c.toNat - '0'.toNat)
      if digitLimit ≤ more then
        readScale negative digits (before - read) (rest.dropWhile Char.isDigit)
      else readFraction negative more before (read + 1) rest
    else if read = 0 then .error (.atNext .badNumber (c :: rest))
    else readScale negative digits (before - read) (c :: rest)

/-- Reads on in a number whose digits no longer fit. -/
def readLong (negative : Bool) (digits : Nat) (dropped : Nat) : Reader JsonNumber
  | '.' :: rest => readFraction negative digits dropped 0 rest
  | c :: rest =>
    if c.isDigit then readLong negative digits (dropped + 1) rest
    else readScale negative digits dropped (c :: rest)
  | [] => readScale negative digits dropped []

/-- An integer; below the 64-bit range, and for a negative zero, a float. -/
def integer (negative : Bool) (digits : Nat) : JsonNumber :=
  if !negative then .natural (.ofNat digits)
  else if digits = 0 ∨ 9223372036854775808 < digits then .float (-(nearestFloat false digits 0))
  else .negative (.ofInt (-digits))

/-- Reads what may follow the digits of an integer. -/
def readAfterInteger (negative : Bool) (digits : Nat) : Reader JsonNumber
  | '.' :: rest => readFraction negative digits 0 0 rest
  | 'e' :: rest | 'E' :: rest => readExponent negative digits 0 rest
  | rest => .ok (integer negative digits, rest)

/-- Reads the digits of an integer after the first one. -/
def readIntegerDigits (negative : Bool) (digits : Nat) : Reader JsonNumber
  | [] => readAfterInteger negative digits []
  | c :: rest =>
    if c.isDigit then
      let more := digits * 10 + (c.toNat - '0'.toNat)
      if digitLimit ≤ more then readLong negative digits 0 (c :: rest)
      else readIntegerDigits negative more rest
    else readAfterInteger negative digits (c :: rest)

/-- Reads a number after its sign. -/
def readUnsigned (negative : Bool) : Reader JsonNumber
  | [] => .error (.atNext .endInValue [])
  | c :: rest =>
    if c = '0' then
      match rest with
      | d :: more =>
        if d.isDigit then .error (.atNext .badNumber (d :: more))
        else readAfterInteger negative 0 rest
      | [] => readAfterInteger negative 0 []
    else if c.isDigit then readIntegerDigits negative (c.toNat - '0'.toNat) rest
    else .error (.atNext .badNumber (c :: rest))

end SqlClient.Json
