/-!
# Digits

Numbers as decimal digits of a least width, and octets as hexadecimal digits.
-/

namespace SqlClient.Text

/-- The decimal digits of a number, without leading zeros. -/
def digits (n : Nat) : String :=
  String.ofList (Nat.toDigits 10 n)

/-- The decimal digits of a number, filled up with zeros on the left to `width`. -/
def paddedDigits (width n : Nat) : String :=
  let ds := Nat.toDigits 10 n
  String.ofList (List.replicate (width - ds.length) '0' ++ ds)

/-- The two lower-case hexadecimal digits of an octet. -/
def hexOctet (b : UInt8) : List Char :=
  [Nat.digitChar (b.toNat / 16), Nat.digitChar (b.toNat % 16)]

/-- The lower-case hexadecimal digits of octets. -/
def hex (bytes : List UInt8) : List Char :=
  bytes.flatMap hexOctet

/-- The value of a hexadecimal digit of either case. -/
def hexValue? (c : Char) : Option Nat :=
  if c.isDigit then some (c.toNat - '0'.toNat)
  else if 'a' ≤ c ∧ c ≤ 'f' then some (c.toNat - 'a'.toNat + 10)
  else if 'A' ≤ c ∧ c ≤ 'F' then some (c.toNat - 'A'.toNat + 10)
  else none

/-- The octets that pairs of hexadecimal digits spell. -/
def unhex? : List Char → Option (List UInt8)
  | [] => some []
  | high :: low :: rest => do
    let high ← hexValue? high
    let low ← hexValue? low
    return UInt8.ofNat (high * 16 + low) :: (← unhex? rest)
  | [_] => none

/-- A digit is read as what it was written for. -/
theorem hexValue?_digitChar {n : Nat} (h : n < 16) : hexValue? (Nat.digitChar n) = some n := by
  have : ∀ m < 16, hexValue? (Nat.digitChar m) = some m := by decide
  exact this n h

/-- Octets survive their hexadecimal form. -/
theorem unhex?_hex (bytes : List UInt8) : unhex? (hex bytes) = some bytes := by
  induction bytes with
  | nil => rfl
  | cons b bs ih =>
    have hb : b.toNat < 256 := b.toNat_lt
    have low : b.toNat % 16 < 16 := Nat.mod_lt _ (by decide)
    have high : b.toNat / 16 < 16 := by omega
    have hsum : b.toNat / 16 * 16 + b.toNat % 16 = b.toNat := by omega
    simp only [hex, List.flatMap_cons, hexOctet, List.cons_append, List.nil_append, unhex?,
      hexValue?_digitChar low, hexValue?_digitChar high, Option.bind_eq_bind, Option.bind_some, hsum]
    rw [show unhex? (List.flatMap hexOctet bs) = some bs from ih]
    simp

end SqlClient.Text
