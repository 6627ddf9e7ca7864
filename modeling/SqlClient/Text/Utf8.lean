import SqlClient.Text.Digits

/-!
# UTF-8

How many octets characters take, and octets read as UTF-8. The first octet of a character fixes how many
follow and what the second may be; the others are continuations. The first octet that rules the text out
ends the reading.
-/

namespace SqlClient.Text

/-- The number of octets that characters take. -/
def byteSize (cs : List Char) : Nat := cs.foldr (fun c size => c.utf8Size + size) 0

theorem byteSize_cons (c : Char) (cs : List Char) : byteSize (c :: cs) = c.utf8Size + byteSize cs :=
  rfl

theorem byteSize_append (cs ds : List Char) : byteSize (cs ++ ds) = byteSize cs + byteSize ds := by
  induction cs with
  | nil => exact (Nat.zero_add _).symm
  | cons c cs ih => rw [List.cons_append, byteSize_cons, byteSize_cons, ih, Nat.add_assoc]

/-- Why octets are no UTF-8, and the index of the character that fails. -/
inductive Utf8Fault where
  /-- So many octets from the index on start no character. -/
  | invalid (index size : Nat)
  /-- The octets end inside a character. -/
  | incomplete (index : Nat)
  deriving DecidableEq, Repr

/-- The fault in words. -/
def Utf8Fault.message : Utf8Fault → String
  | .invalid index size =>
    "invalid utf-8 sequence of " ++ digits size ++ " bytes from index " ++ digits index
  | .incomplete index => "incomplete utf-8 byte sequence from index " ++ digits index

/-- For a first octet: how many follow, the least and the greatest second octet. -/
def utf8Lead? (b : UInt8) : Option (Nat × UInt8 × UInt8) :=
  if b ≤ 0x7F then some (0, 0x80, 0xBF)
  else if b < 0xC2 then none
  else if b ≤ 0xDF then some (1, 0x80, 0xBF)
  else if b = 0xE0 then some (2, 0xA0, 0xBF)
  else if b = 0xED then some (2, 0x80, 0x9F)
  else if b ≤ 0xEF then some (2, 0x80, 0xBF)
  else if b = 0xF0 then some (3, 0x90, 0xBF)
  else if b ≤ 0xF3 then some (3, 0x80, 0xBF)
  else if b = 0xF4 then some (3, 0x80, 0x8F)
  else none

/-- How far the octets after a first octet go on as they should, and whether that is because they
end. The bounds are those of the next octet. -/
def utf8Tail (low high : UInt8) : Nat → List UInt8 → Nat × Bool
  | 0, _ => (0, false)
  | _ + 1, [] => (0, true)
  | wanted + 1, b :: rest =>
    if low ≤ b && b ≤ high then
      let (size, ended) := utf8Tail 0x80 0xBF wanted rest
      (size + 1, ended)
    else (0, false)

/-- The code point that a first octet and its continuations spell. -/
def utf8CodePoint (lead : UInt8) (tail : List UInt8) : Nat :=
  let kept := if tail.isEmpty then 128 else Nat.pow 2 (6 - tail.length)
  tail.foldl (fun n b => n * 64 + b.toNat % 64) (lead.toNat % kept)

/-- The characters that octets spell, the first of them at `index`. -/
def ofUtf8From (index : Nat) : List UInt8 → Except Utf8Fault (List Char)
  | [] => .ok []
  | b :: rest =>
    match utf8Lead? b with
    | none => .error (.invalid index 1)
    | some (wanted, low, high) =>
      let (size, ended) := utf8Tail low high wanted rest
      if size = wanted then do
        let cs ← ofUtf8From (index + 1 + size) (rest.drop size)
        return Char.ofNat (utf8CodePoint b (rest.take size)) :: cs
      else if ended then .error (.incomplete index)
      else .error (.invalid index (size + 1))
termination_by bytes => bytes.length
decreasing_by simp only [List.length_drop, List.length_cons]; omega

/-- The text that octets spell. -/
def ofUtf8 (bytes : List UInt8) : Except Utf8Fault String :=
  (ofUtf8From 0 bytes).map String.ofList

/-- The octets of a text. -/
def toUtf8 (s : String) : List UInt8 := s.toByteArray.toList

end SqlClient.Text
