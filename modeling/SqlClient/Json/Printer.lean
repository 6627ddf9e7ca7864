import SqlClient.Json.Value
import SqlClient.Number.FloatText

/-!
# Printing a document

The compact form: no blanks, members in the order of their keys, integers in digits. Floats have the
shortest digits that read back, positional where their decimal exponent is between -5 and 15, with a
fraction of one zero where there is none.
-/

namespace SqlClient.Json

/-- The least decimal exponent that is written positionally. -/
def minPositional : Int := -5

/-- The greatest decimal exponent that is written positionally. -/
def maxPositional : Int := 15

/-- Digits with a point after the first one, if there are more, and the decimal exponent. -/
def scientific (digits : List Char) (exponent : Int) : List Char :=
  let size := Nat.toDigits 10 exponent.natAbs
  let mantissa :=
    match digits with
    | first :: d :: rest => first :: '.' :: d :: rest
    | digits => digits
  mantissa ++ 'e' :: (if exponent < 0 then '-' else '+') :: size

/-- A positive or zero float. -/
def sizeText (d : ScaledDigits) : List Char :=
  let digits := Nat.toDigits 10 d.digits
  let exponent : Int := d.exponent + digits.length - 1
  if minPositional ≤ exponent ∧ exponent ≤ maxPositional then
    d.positional.toList ++ if 0 ≤ d.exponent then ['.', '0'] else []
  else scientific digits exponent

/-- A float of a document. -/
def floatText (x : Float) : String :=
  match unpackFloat x with
  | .finite negative significand exponent =>
    let size := sizeText (shortestDigits .binary64 .even significand exponent)
    String.ofList (if negative then '-' :: size else size)
  | _ => "null"

/-- A number of a document. -/
def numberText : JsonNumber → String
  | .natural n => Text.digits n.toNat
  | .negative n => toString n.toInt
  | .float x => floatText x

/-- A character as it stands in a string. -/
def escapeChar (c : Char) : List Char :=
  match c with
  | '"' => ['\\', '"']
  | '\\' => ['\\', '\\']
  | '\x08' => ['\\', 'b']
  | '\x0c' => ['\\', 'f']
  | '\n' => ['\\', 'n']
  | '\r' => ['\\', 'r']
  | '\t' => ['\\', 't']
  | c => if c.toNat < 0x20 then ['\\', 'u', '0', '0'] ++ Text.hexOctet (.ofNat c.toNat) else [c]

/-- A string in quotes. -/
def stringText (s : String) : String :=
  String.ofList ('"' :: s.toList.flatMap escapeChar ++ ['"'])

mutual

/-- The compact form of a document. -/
def print : Json → String
  | .null => "null"
  | .bool true => "true"
  | .bool false => "false"
  | .number n => numberText n
  | .string s => stringText s
  | .array items => "[" ++ ",".intercalate (printItems items) ++ "]"
  | .object members => "\x7b" ++ ",".intercalate (printMembers members) ++ "\x7d"

/-- The compact forms of the items of a list. -/
def printItems : List Json → List String
  | [] => []
  | item :: items => print item :: printItems items

/-- The compact forms of the members of an object. -/
def printMembers : List (String × Json) → List String
  | [] => []
  | (key, value) :: members => (stringText key ++ ":" ++ print value) :: printMembers members

end

end SqlClient.Json
