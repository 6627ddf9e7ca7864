import SqlClient.Json.Fault

/-!
# Strings of a document

A string is read after its opening quote. Characters beyond the basic plane are escaped as a pair of
surrogates; a surrogate outside a pair is refused.
-/

namespace SqlClient.Json

/-- The characters that stand for one character after a backslash. -/
def shortEscape? : Char → Option Char
  | '"' => some '"'
  | '\\' => some '\\'
  | '/' => some '/'
  | 'b' => some '\x08'
  | 'f' => some '\x0c'
  | 'n' => some '\n'
  | 'r' => some '\r'
  | 't' => some '\t'
  | _ => none

/-- Reads four bytes as hexadecimal digits. -/
def readHex : Reader Nat
  | a :: b :: c :: d :: rest =>
    match Text.hexValue? a, Text.hexValue? b, Text.hexValue? c, Text.hexValue? d with
    | some a, some b, some c, some d => .ok (((a * 16 + b) * 16 + c) * 16 + d, rest)
    | _, _, _, _ => .error ⟨.badEscape, Text.byteSize (a :: b :: c :: d :: rest) - 4⟩
  | rest =>
    if 4 ≤ Text.byteSize rest then .error ⟨.badEscape, Text.byteSize rest - 4⟩
    else .error (.before .endInString [])

/-- The code units that open a surrogate pair. -/
def isHighSurrogate (n : Nat) : Bool := 0xD800 ≤ n && n ≤ 0xDBFF

/-- The code units that close a surrogate pair. -/
def isLowSurrogate (n : Nat) : Bool := 0xDC00 ≤ n && n ≤ 0xDFFF

/-- Reads the character `c`, a half pair being there without it. -/
def readPairMark (c : Char) : Reader Unit
  | [] => .error (.before .endInString [])
  | d :: rest => if d = c then .ok ((), rest) else .error (.atNext .halfSurrogatePair (d :: rest))

/-- Reads an escaped code point after its `u`. -/
def readCodePoint : Reader Char := fun cs => do
  let (unit, cs) ← readHex cs
  if isLowSurrogate unit then .error (.before .loneSurrogate cs)
  else if isHighSurrogate unit then do
    let ((), cs) ← readPairMark '\\' cs
    let ((), cs) ← readPairMark 'u' cs
    let (low, cs) ← readHex cs
    if isLowSurrogate low then
      .ok (Char.ofNat (0x10000 + (unit - 0xD800) * 0x400 + (low - 0xDC00)), cs)
    else .error (.before .loneSurrogate cs)
  else .ok (Char.ofNat unit, cs)

/-- Reads an escape after its backslash. -/
def readEscape : Reader Char
  | [] => .error (.before .endInString [])
  | 'u' :: rest => readCodePoint rest
  | c :: rest =>
    match shortEscape? c with
    | some d => .ok (d, rest)
    | none => .error (.atNext .badEscape (c :: rest))

/-- Reads an escape without asking what it stands for. -/
def skipEscape : Reader Unit
  | 'u' :: rest => (readHex rest).map fun (_, rest) => ((), rest)
  | rest => (readEscape rest).map fun (_, rest) => ((), rest)

/-- Reads the rest of a string, at most `fuel` characters; `read` holds what has been read, last
character first. -/
def readStringFrom : Nat → List Char → Reader String
  | 0, _, _ => .error (.before .endInString [])
  | _ + 1, _, [] => .error (.before .endInString [])
  | fuel + 1, read, c :: rest =>
    if c = '"' then .ok (String.ofList read.reverse, rest)
    else if c = '\\' then do
      let (d, rest) ← readEscape rest
      readStringFrom fuel (d :: read) rest
    else if c.toNat < 0x20 then .error (.atNext .controlCharacter (c :: rest))
    else readStringFrom fuel (c :: read) rest

/-- Reads a string after its opening quote. -/
def readString : Reader String := fun cs => readStringFrom (cs.length + 1) [] cs

/-- Skips the rest of a string, at most `fuel` characters. -/
def skipStringFrom : Nat → Reader Unit
  | 0, _ => .error (.before .endInString [])
  | _ + 1, [] => .error (.before .endInString [])
  | fuel + 1, c :: rest =>
    if c = '"' then .ok ((), rest)
    else if c = '\\' then do
      let ((), rest) ← skipEscape rest
      skipStringFrom fuel rest
    else if c.toNat < 0x20 then .error (.before .controlCharacter (c :: rest))
    else skipStringFrom fuel rest

/-- Skips a string after its opening quote. -/
def skipString : Reader Unit := fun cs => skipStringFrom (cs.length + 1) cs

end SqlClient.Json
