import SqlClient.Text.Utf8

/-!
# Universally unique identifiers

Sixteen octets. They are written as groups of hexadecimal digits with hyphens between them, and read
also without hyphens, and the groups in braces or after `urn:uuid:` in any case. How many octets a text
takes decides which of these it is read as, and a text that is none of them is told what is wrong with it
as that form.
-/

namespace SqlClient

/-- An identifier of sixteen octets. -/
structure Uuid where
  bytes : List UInt8
  length_eq : bytes.length = 16
  deriving DecidableEq

/-- Why a text or octets are no identifier. -/
inductive UuidFault where
  /-- A character that is neither a hexadecimal digit nor a hyphen, and its byte offset. -/
  | character (c : Char) (offset : Nat)
  /-- Hexadecimal digits without hyphens, but not 32 of them, or a text too long for any form. -/
  | length (size : Nat)
  /-- Not five groups. -/
  | groupCount (count : Nat)
  /-- A group that is too long or too short. -/
  | groupLength (group expected size : Nat)
  /-- Not sixteen octets. -/
  | byteCount (count : Nat)
  deriving DecidableEq, Repr

namespace UuidFault

/-- The fault in words. -/
def message : UuidFault → String
  | .character c offset =>
    "invalid character: found `" ++ c.toString ++ "` at " ++ Text.digits offset
  | .length size => "invalid length: found " ++ Text.digits size
  | .groupCount count => "invalid group count: expected 5, found " ++ Text.digits count
  | .groupLength group expected size =>
    "invalid group length in group " ++ Text.digits group ++ ": expected " ++
      Text.digits expected ++ ", found " ++ Text.digits size
  | .byteCount count => "invalid length: expected 16 bytes, found " ++ Text.digits count

end UuidFault

namespace Uuid

/-- The lengths of the groups of digits. -/
def groupLengths : List Nat := [8, 4, 4, 4, 12]

/-- The identifier of these octets. -/
def ofBytes (bytes : List UInt8) : Except UuidFault Uuid :=
  if h : bytes.length = 16 then .ok ⟨bytes, h⟩ else .error (.byteCount bytes.length)

/-- Groups of hexadecimal digits with hyphens between them. -/
def text (u : Uuid) : String :=
  let ds := Text.hex u.bytes
  let group (start size : Nat) := String.ofList ((ds.drop start).take size)
  "-".intercalate [group 0 8, group 8 4, group 12 4, group 16 4, group 20 12]

/-- The characters between hyphens. -/
def groups : List Char → List (List Char)
  | [] => [[]]
  | c :: cs =>
    if c = '-' then [] :: groups cs
    else
      match groups cs with
      | [] => [[c]]
      | g :: gs => (c :: g) :: gs

/-- Braces or the name of the namespace around the digits. -/
inductive Wrapping where
  | bare
  | braced
  | urn
  deriving DecidableEq

/-- The text inside its wrapping. The name of the namespace is read in any case. -/
def unwrap (cs : List Char) : Wrapping × List Char :=
  let urn := "urn:uuid:".toList
  if cs.head? = some '\x7b' ∧ 2 ≤ cs.length ∧ cs.getLast? = some '\x7d' then
    (.braced, (cs.drop 1).dropLast)
  else if (cs.take urn.length).map Char.toLower = urn then (.urn, cs.drop urn.length)
  else (.bare, cs)

/-- The characters of a wrapping before what it wraps. -/
def Wrapping.leading : Wrapping → Nat
  | .bare => 0
  | .braced => 1
  | .urn => 9

/-- The characters of a wrapping after what it wraps. -/
def Wrapping.trailing : Wrapping → Nat
  | .braced => 1
  | _ => 0

/-- The identifier that hexadecimal digits spell. -/
def ofHex? (ds : List Char) : Option Uuid := do
  let bytes ← Text.unhex? ds
  (ofBytes bytes).toOption

/-- The first character that may not stand in an identifier, and its offset. -/
def firstForeign? (offset : Nat) : List Char → Option (Char × Nat)
  | [] => none
  | c :: cs =>
    if c = '-' ∨ (Text.hexValue? c).isSome then firstForeign? (offset + c.utf8Size) cs
    else some (c, offset)

/-- The first group of a wrong length. -/
def firstBadGroup? (group : Nat) : List Nat → List Nat → Option UuidFault
  | expected :: es, size :: ss =>
    if size = expected then firstBadGroup? (group + 1) es ss
    else some (.groupLength group expected size)
  | _, _ => none

/-- The fault of the first character that may not stand in an identifier. -/
def foreignFault? (offset : Nat) (cs : List Char) : Option UuidFault :=
  (firstForeign? offset cs).map fun (c, offset) => .character c offset

/-- Why hexadecimal digits and hyphens are no five groups of the right lengths. The last group is counted
together with the characters of the wrapping. -/
def groupFault (wrapping : Wrapping) (cs : List Char) : UuidFault :=
  let sizes := (groups cs).map List.length
  if sizes.length ≠ 5 then .groupCount sizes.length
  else
    let last := sizes.getLastD 0 + wrapping.leading + wrapping.trailing
    (firstBadGroup? 0 groupLengths (sizes.dropLast ++ [last])).getD (.length cs.length)

/-- Why the text in this wrapping is no identifier, if its size fits no form. -/
def fault (wrapping : Wrapping) (cs : List Char) : UuidFault :=
  (foreignFault? wrapping.leading cs).getD
    (if wrapping = .bare ∧ '-' ∉ cs then .length cs.length else groupFault wrapping cs)

/-- The octets of five groups and the hyphens between them. -/
def hyphenatedSize : Nat := 36

/-- The octets of the longest text that may spell an identifier: the name of the namespace, and groups. -/
def maxTextSize : Nat := 45

/-- The identifier that five groups spell. A fault is told of the groups alone, whatever stands around
them. -/
def parseHyphenated (cs : List Char) : Except UuidFault Uuid :=
  let gs := groups cs
  match if gs.map List.length = groupLengths then ofHex? gs.flatten else none with
  | some u => .ok u
  | none => .error ((foreignFault? 0 cs).getD (groupFault .bare cs))

/-- The identifier that a text spells. A text of `hyphenatedSize` octets is taken for groups as it is, and
else what its wrapping holds, if that has this size. -/
def parse (s : String) : Except UuidFault Uuid :=
  let cs := s.toList
  let (wrapping, inner) := unwrap cs
  if maxTextSize < Text.byteSize cs then .error (.length (Text.byteSize cs))
  else
    match [cs, inner].find? fun t => Text.byteSize t == hyphenatedSize with
    | some t => parseHyphenated t
    | none =>
      match if cs.length = 32 then ofHex? cs else none with
      | some u => .ok u
      | none => .error (fault wrapping inner)

end Uuid

end SqlClient
