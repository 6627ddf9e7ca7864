import SqlClient.Json.Parser

/-!
# Skipping a value

A value that nobody asked for is checked for its form alone: numbers have no range, surrogates need no
partner, and lists and objects nest without a limit.
-/

namespace SqlClient.Json

/-- Skips an exponent after its letter. -/
def skipExponent : Reader Unit := fun cs =>
  let cs :=
    match cs with
    | '+' :: rest | '-' :: rest => rest
    | rest => rest
  match cs with
  | c :: rest =>
    if c.isDigit then .ok ((), rest.dropWhile Char.isDigit)
    else .error (.atNext .badNumber (c :: rest))
  | [] => .error (.atNext .badNumber [])

/-- Skips what may follow the digits after a point. -/
def skipScale : Reader Unit
  | 'e' :: rest | 'E' :: rest => skipExponent rest
  | rest => .ok ((), rest)

/-- Skips the digits after a point. -/
def skipFraction : Reader Unit
  | c :: rest =>
    if c.isDigit then skipScale (rest.dropWhile Char.isDigit)
    else .error (.atNext .badNumber (c :: rest))
  | [] => .error (.atNext .badNumber [])

/-- Skips what may follow the digits of an integer. -/
def skipAfterInteger : Reader Unit
  | '.' :: rest => skipFraction rest
  | rest => skipScale rest

/-- Skips a number after its sign. -/
def skipNumber : Reader Unit
  | '0' :: c :: rest =>
    if c.isDigit then .error (.atNext .badNumber (c :: rest)) else skipAfterInteger (c :: rest)
  | c :: rest =>
    if c.isDigit then skipAfterInteger (rest.dropWhile Char.isDigit)
    else .error (.atNext .badNumber (c :: rest))
  | [] => .error (.atNext .badNumber [])

/-- Skips a value that is neither a list nor an object. -/
def skipScalar : Reader Unit
  | [] => .error (.atNext .endInValue [])
  | 'n' :: rest => readWord ['u', 'l', 'l'] rest
  | 't' :: rest => readWord ['r', 'u', 'e'] rest
  | 'f' :: rest => readWord ['a', 'l', 's', 'e'] rest
  | '-' :: rest => skipNumber rest
  | '"' :: rest => skipString rest
  | c :: rest =>
    if c.isDigit then skipNumber (c :: rest) else .error (.atNext .expectedValue (c :: rest))

/-- What encloses a value: the kind of its bracket. -/
inductive Enclosing where
  | list
  | object
  deriving DecidableEq

namespace Enclosing

/-- The bracket that closes. -/
def closing : Enclosing → Char
  | .list => ']'
  | .object => '\x7d'

/-- The fault of an item that is followed by something else than a comma or the end. -/
def expectedCommaOrEnd : Enclosing → Fault
  | .list => .expectedListCommaOrEnd
  | .object => .expectedObjectCommaOrEnd

/-- The fault of a text that ends inside. -/
def endInside : Enclosing → Fault
  | .list => .endInList
  | .object => .endInObject

end Enclosing

/-- Skips the key and the colon before a member of an object; an item of a list has none. -/
def skipKey : Enclosing → Reader Unit
  | .list, cs => .ok ((), cs)
  | .object, cs =>
    match skipGap cs with
    | '"' :: rest => do
      let ((), rest) ← skipString rest
      readColon rest
    | [] => .error (.atNext .endInObject [])
    | rest => .error (.atNext .keyNotString rest)

/-- Skips items up to the bracket that closes, at most `fuel` of them. After a comma there has to be an
item. -/
def skipItems (item : Reader Unit) (enclosing : Enclosing) : Nat → Reader Unit
  | 0, _ => .error (.before enclosing.endInside [])
  | fuel + 1, cs => do
    let ((), rest) ← skipKey enclosing cs
    let ((), rest) ← item rest
    match skipGap rest with
    | [] => .error (.atNext enclosing.endInside [])
    | c :: more =>
      if c = ',' then skipItems item enclosing fuel more
      else if c = enclosing.closing then .ok ((), more)
      else .error (.atNext enclosing.expectedCommaOrEnd (c :: more))

/-- Skips a list or an object after its opening bracket. -/
def skipEnclosed (item : Reader Unit) (enclosing : Enclosing) : Reader Unit := fun cs =>
  match skipGap cs with
  | [] => .error (.atNext enclosing.endInside [])
  | c :: rest =>
    if c = enclosing.closing then .ok ((), rest)
    else skipItems item enclosing (rest.length + 1) (c :: rest)

/-- Skips a value that nests at most `depth` deep. -/
def skipNested (depth : Nat) : Reader Unit := fun cs =>
  match depth, skipGap cs with
  | depth + 1, '[' :: rest => skipEnclosed (skipNested depth) .list rest
  | depth + 1, '\x7b' :: rest => skipEnclosed (skipNested depth) .object rest
  | _, rest => skipScalar rest

/-- Skips a value; it cannot nest deeper than it has characters. -/
def skipValue : Reader Unit := fun cs => skipNested cs.length cs

end SqlClient.Json
