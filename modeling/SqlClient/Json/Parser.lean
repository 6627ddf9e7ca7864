import SqlClient.Json.Number
import SqlClient.Json.Text

/-!
# Reading a document

Values nest at most `maxDepth` deep. A comma must be followed by a value, and in an object by a key.
-/

namespace SqlClient.Json

/-- How deep lists and objects may nest. -/
def maxDepth : Nat := 127

/-- Reads the items of a list up to its bracket, at most `fuel` of them. `first` tells that no item
has been read. -/
def readItems (item : Reader Json) : Nat → Bool → List Json → Reader (List Json)
  | 0, _, _, _ => .error (.before .endInList [])
  | fuel + 1, first, read, cs =>
    match skipGap cs with
    | [] => .error (.atNext .endInList [])
    | ']' :: rest => .ok (read.reverse, rest)
    | c :: rest =>
      if first then do
        let (value, rest) ← item (c :: rest)
        readItems item fuel false (value :: read) rest
      else if c = ',' then
        match skipGap rest with
        | [] => .error (.atNext .endInValue [])
        | ']' :: more => .error (.atNext .trailingComma (']' :: more))
        | more => do
          let (value, rest) ← item more
          readItems item fuel false (value :: read) rest
      else .error (.atNext .expectedListCommaOrEnd (c :: rest))

/-- Reads the colon after a key. -/
def readColon : Reader Unit := fun cs =>
  match skipGap cs with
  | ':' :: rest => .ok ((), rest)
  | [] => .error (.atNext .endInObject [])
  | rest => .error (.atNext .expectedColon rest)

/-- Goes on to the next key of an object and reads it, or the brace that closes the object. -/
def readKey? (first : Bool) : Reader (Option String) := fun cs =>
  match skipGap cs with
  | [] => .error (.atNext .endInObject [])
  | '\x7d' :: rest => .ok (none, rest)
  | c :: rest =>
    if first then
      if c = '"' then (readString rest).map fun (key, rest) => (some key, rest)
      else .error (.atNext .keyNotString (c :: rest))
    else if c = ',' then
      match skipGap rest with
      | [] => .error (.atNext .endInValue [])
      | '"' :: more => (readString more).map fun (key, rest) => (some key, rest)
      | '\x7d' :: more => .error (.atNext .trailingComma ('\x7d' :: more))
      | more => .error (.atNext .keyNotString more)
    else .error (.atNext .expectedObjectCommaOrEnd (c :: rest))

/-- Reads the members of an object up to its brace, at most `fuel` of them; of members with one key the
last one stays. -/
def readMembers (item : Reader Json) :
    Nat → Bool → List (String × Json) → Reader (List (String × Json))
  | 0, _, _, _ => .error (.before .endInObject [])
  | fuel + 1, first, read, cs => do
    match ← readKey? first cs with
    | (none, rest) => .ok (read, rest)
    | (some key, rest) => do
      let ((), rest) ← readColon rest
      let (value, rest) ← item rest
      readMembers item fuel false (setMember key value read) rest

/-- Reads a value that is neither a list nor an object. -/
def readScalar : Reader Json
  | [] => .error (.atNext .endInValue [])
  | 'n' :: rest => (readWord ['u', 'l', 'l'] rest).map fun ((), rest) => (.null, rest)
  | 't' :: rest => (readWord ['r', 'u', 'e'] rest).map fun ((), rest) => (.bool true, rest)
  | 'f' :: rest => (readWord ['a', 'l', 's', 'e'] rest).map fun ((), rest) => (.bool false, rest)
  | '-' :: rest => (readUnsigned true rest).map fun (n, rest) => (.number n, rest)
  | '"' :: rest => (readString rest).map fun (s, rest) => (.string s, rest)
  | c :: rest =>
    if c.isDigit then (readUnsigned false (c :: rest)).map fun (n, rest) => (.number n, rest)
    else .error (.atNext .expectedValue (c :: rest))

/-- Reads a value that nests at most `depth` deep. -/
def readValue (depth : Nat) : Reader Json := fun cs =>
  match depth, skipGap cs with
  | 0, '[' :: rest => .error (.atNext .tooDeep ('[' :: rest))
  | 0, '\x7b' :: rest => .error (.atNext .tooDeep ('\x7b' :: rest))
  | depth + 1, '[' :: rest =>
    (readItems (readValue depth) (rest.length + 1) true [] rest).map fun (items, rest) =>
      (.array items, rest)
  | depth + 1, '\x7b' :: rest =>
    (readMembers (readValue depth) (rest.length + 1) true [] rest).map fun (members, rest) =>
      (.object members, rest)
  | _, rest => readScalar rest

/-- The document that a text spells. -/
def read (cs : List Char) : Except Failure Json := do
  let (value, rest) ← readValue maxDepth cs
  readEnd rest
  return value

/-- The document that a text spells, or what is wrong with it in words. -/
def parse (s : String) : Except String Json :=
  (read s.toList).mapError (Failure.describe s)

end SqlClient.Json
