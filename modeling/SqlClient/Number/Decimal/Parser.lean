import SqlClient.Number.Decimal

/-!
# Decimals from text

A decimal is read in one pass from left to right: a sign, then digits with one point anywhere and
underscores after the first digit. Once the point is read, digits that no longer fit are cut off, and
the first of them decides the rounding. A text that is no decimal this way may still be one with an
exponent, which moves the point; digits that this pushes out at the right are rounded off.
-/

namespace SqlClient.Decimal

/-- What has been read: the digits, how many of them stand after the point, whether there was a point,
and whether there was a digit. -/
structure Reading where
  mantissa : Nat
  scale : Nat
  point : Bool
  started : Bool

namespace Reading

/-- Before the first character. -/
def start : Reading := ⟨0, 0, false, false⟩

/-- The decimal that ends here. -/
def finish (negative : Bool) (r : Reading) : Option Decimal :=
  if r.started then ofUnsignedZero? negative r.mantissa r.scale else none

/-- Below this mantissa, an underscore in the place of the digit that decides the rounding is a zero. -/
def underscoreLimit : Nat := 1844674407370954906

/-- The digit that decides the rounding of what has been read if it is cut off before this text. An
underscore stands for a zero while the mantissa, without its last digit, is below `underscoreLimit`, and
is passed over from there on. -/
def decidingDigit (r : Reading) (cs : List Char) : Nat :=
  let cs := if r.mantissa / 10 < underscoreLimit then cs else cs.dropWhile (· == '_')
  match cs with
  | c :: _ => if c.isDigit then c.toNat - '0'.toNat else 0
  | [] => 0

/-- What has been read, cut off before this text, which holds only digits and underscores. A half or more
rounds up; if that takes one digit too many, the last digit after the point goes. -/
def cut (negative : Bool) (r : Reading) (cs : List Char) : Option Decimal :=
  if cs.all fun c => c.isDigit || c == '_' then
    if r.decidingDigit cs < 5 then ofUnsignedZero? negative r.mantissa r.scale
    else if r.mantissa + 1 < mantissaLimit then ofUnsignedZero? negative (r.mantissa + 1) r.scale
    else if r.scale = 0 then none
    else ofUnsignedZero? negative ((r.mantissa + 1 + 4) / 10) (r.scale - 1)
  else none

/-- Reads on. -/
def run (negative : Bool) (r : Reading) : List Char → Option Decimal
  | [] => r.finish negative
  | c :: rest =>
    if c.isDigit then
      let mantissa := r.mantissa * 10 + (c.toNat - '0'.toNat)
      if mantissaLimit ≤ mantissa then
        if r.point then r.cut negative (c :: rest) else none
      else
        let r : Reading := ⟨mantissa, if r.point then r.scale + 1 else 0, r.point, true⟩
        if r.point && maxScale ≤ r.scale then r.cut negative rest else run negative r rest
    else if c == '.' && !r.point then run negative { r with point := true } rest
    else if c == '_' && r.started then run negative r rest
    else none

end Reading

/-- The decimal that a text without an exponent spells. -/
def plain? : List Char → Option Decimal
  | [] => none
  | '-' :: cs => Reading.start.run true cs
  | '+' :: cs => Reading.start.run false cs
  | cs => Reading.start.run false cs

/-- A number of 32 bits: decimal digits, a plus sign before them or not. -/
def natural32? (cs : List Char) : Option Nat :=
  let ds := if cs.head? = some '+' then cs.tail else cs
  let n := Nat.ofDigitChars 10 ds 0
  if !ds.isEmpty && ds.all Char.isDigit && n < 4294967296 then some n else none

/-- The decimal with its point at most `maxScale` places to the left. Digits beyond the last place are
rounded off, a half away from zero, and what is left keeps its sign even if it is zero. -/
def shrink? (d : Decimal) (places : Nat) : Option Decimal :=
  let scale := d.scale + places
  if maxScale < places then none
  else if scale ≤ maxScale then ofParts? d.negative d.mantissa scale
  else
    let unit := Nat.pow 10 (scale - maxScale)
    ofParts? d.negative ((d.mantissa + unit / 2) / unit) maxScale

/-- The decimal with its point `places` to the right. -/
def grow? (d : Decimal) (places : Nat) : Option Decimal :=
  if places ≤ d.scale then ofParts? d.negative d.mantissa (d.scale - places)
  else if places ≤ maxScale then ofParts? d.negative (d.mantissa * Nat.pow 10 (places - d.scale)) 0
  else none

/-- The decimal that a text with an exponent spells. -/
def scientific? (cs : List Char) : Option Decimal :=
  let base := cs.takeWhile fun c => c != 'e' && c != 'E'
  match cs.drop base.length with
  | [] => none
  | _ :: '-' :: exponent => do (← plain? base).shrink? (← natural32? exponent)
  | _ :: exponent => do (← plain? base).grow? (← natural32? exponent)

/-- The decimal that a text spells. -/
def parse? (s : String) : Option Decimal :=
  (plain? s.toList).or (scientific? s.toList)

end SqlClient.Decimal
