/-!
# Integers in a range

Arithmetic on fixed-width integers that gives nothing when the exact result does not fit.
-/

namespace SqlClient

/-- The integer as 8 bits, if it fits. -/
def int8? (n : Int) : Option Int8 :=
  if -128 ≤ n ∧ n < 128 then some (.ofInt n) else none

/-- The integer as 16 bits, if it fits. -/
def int16? (n : Int) : Option Int16 :=
  if -32768 ≤ n ∧ n < 32768 then some (.ofInt n) else none

/-- The integer as 32 bits, if it fits. -/
def int32? (n : Int) : Option Int32 :=
  if -2147483648 ≤ n ∧ n < 2147483648 then some (.ofInt n) else none

/-- The integer as 64 bits, if it fits. -/
def int64? (n : Int) : Option Int64 :=
  if -9223372036854775808 ≤ n ∧ n < 9223372036854775808 then some (.ofInt n) else none

/-- A number that fits is kept. -/
theorem toInt_of_int64? {n : Int} {m : Int64} (h : int64? n = some m) : m.toInt = n := by
  unfold int64? at h
  split at h
  next hr =>
    cases h
    exact Int64.toInt_ofInt_of_le (by omega) (by omega)
  next => cases h

/-- A number that is a 64-bit integer fits. -/
@[simp] theorem int64?_toInt (m : Int64) : int64? m.toInt = some m := by
  have h1 := m.minValue_le_toInt
  have h2 := m.toInt_lt
  simp only [int64?, Int64.ofInt_toInt, ite_eq_left_iff, reduceCtorEq, imp_false, Classical.not_not]
  exact ⟨by simpa using h1, h2⟩

/-- The sum, if it fits. -/
def checkedAdd (a b : Int64) : Option Int64 := int64? (a.toInt + b.toInt)

/-- The product, if it fits. -/
def checkedMul (a b : Int64) : Option Int64 := int64? (a.toInt * b.toInt)

/-- The negation, if it fits. -/
def checkedNeg (a : Int64) : Option Int64 := int64? (-a.toInt)

end SqlClient
