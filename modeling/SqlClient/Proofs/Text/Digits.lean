import Mathlib.Algebra.Group.Nat.Defs
import SqlClient.Proofs.Text.Order
import SqlClient.Text.Digits

/-!
# Numbers in a field of digits

A number that a field of fixed width has room for fills it with its last digits, zeros in front.
Fields of one width compare like their numbers, and zeros at the end of a field may be left out
without changing how it compares.
-/

namespace SqlClient.Text

/-- The last `width` decimal digits of a number. -/
def lastDigits : Nat → Nat → List Char
  | 0, _ => []
  | width + 1, n => lastDigits width (n / 10) ++ [Nat.digitChar (n % 10)]

variable {width m n : Nat}

@[simp] theorem length_lastDigits (width n : Nat) : (lastDigits width n).length = width := by
  induction width generalizing n with
  | zero => rfl
  | succ width ih => rw [lastDigits, List.length_append, ih, List.length_singleton]

theorem lastDigits_add (width more n : Nat) :
    lastDigits (width + more) n = lastDigits width (n / 10 ^ more) ++ lastDigits more n := by
  induction more generalizing n with
  | zero => rw [Nat.pow_zero, Nat.div_one, lastDigits, List.append_nil, Nat.add_zero]
  | succ more ih =>
    rw [← Nat.add_assoc, lastDigits, ih, lastDigits, Nat.div_div_eq_div_mul, Nat.pow_succ',
      List.append_assoc]

theorem lastDigits_of_mod_eq_zero (h : n % 10 ^ width = 0) :
    lastDigits width n = List.replicate width '0' := by
  induction width generalizing n with
  | zero => rfl
  | succ width ih =>
    rw [Nat.pow_succ'] at h
    have hlast : n % 10 = 0 := by
      rw [← Nat.mod_mul_right_mod n 10 (10 ^ width), h]
    have hrest : n / 10 % 10 ^ width = 0 := by
      rw [← Nat.mod_mul_right_div_self, h, Nat.zero_div]
    rw [lastDigits, ih hrest, hlast, List.replicate_succ']
    rfl

theorem isDigit_of_mem_lastDigits {c : Char} (h : c ∈ lastDigits width n) : c.isDigit = true := by
  induction width generalizing n with
  | zero => cases h
  | succ width ih =>
    rcases List.mem_append.mp h with h | h
    · exact ih h
    · obtain rfl := List.mem_singleton.mp h
      rw [Nat.isDigit_digitChar, decide_eq_true_eq]
      omega

theorem toNat_lt_of_isDigit {c : Char} (h : c.isDigit = true) : c.toNat < 128 := by
  rw [Char.isDigit, Bool.and_eq_true, decide_eq_true_eq, decide_eq_true_eq] at h
  exact Nat.lt_of_le_of_lt (UInt32.le_iff_toNat_le.mp h.2) (by decide)

theorem isAscii_lastDigits (width n : Nat) : IsAscii (lastDigits width n) :=
  fun _ hc => toNat_lt_of_isDigit (isDigit_of_mem_lastDigits hc)

/-- A number that has no more digits than the field has is written as its last digits. -/
theorem toList_paddedDigits (hwidth : 0 < width) (hn : n < 10 ^ width) :
    (paddedDigits width n).toList = lastDigits width n := by
  rw [paddedDigits, String.toList_ofList]
  induction width generalizing n with
  | zero => cases hwidth
  | succ width ih =>
    rw [Nat.toDigits_eq_if (by decide), lastDigits]
    split_ifs with hsmall
    · rw [List.length_singleton, Nat.add_sub_cancel, Nat.div_eq_of_lt hsmall,
        lastDigits_of_mod_eq_zero (Nat.zero_mod _), Nat.mod_eq_of_lt hsmall]
    · have hpos : 0 < width := by
        rcases width with _ | width
        · exact absurd hn hsmall
        · exact Nat.succ_pos width
      have hlt : n / 10 < 10 ^ width := by
        rw [Nat.pow_succ'] at hn
        omega
      rw [← ih hpos hlt, List.length_append, List.length_singleton, Nat.add_sub_add_right,
        List.append_assoc]

theorem digitChar_inj (hm : m < 10) (hn : n < 10) : Nat.digitChar m = Nat.digitChar n ↔ m = n := by
  rw [← Char.toNat_inj, Nat.toNat_digitChar_of_lt_ten hm, Nat.toNat_digitChar_of_lt_ten hn]
  omega

theorem digitChar_lt_digitChar (hm : m < 10) (hn : n < 10) :
    Nat.digitChar m < Nat.digitChar n ↔ m < n := by
  have hchar : ∀ c d : Char, c < d ↔ c.toNat < d.toNat := fun _ _ => UInt32.lt_iff_toNat_lt
  rw [hchar, Nat.toNat_digitChar_of_lt_ten hm, Nat.toNat_digitChar_of_lt_ten hn]
  omega

theorem lastDigits_inj (hm : m < 10 ^ width) (hn : n < 10 ^ width) :
    lastDigits width m = lastDigits width n ↔ m = n := by
  induction width generalizing m n with
  | zero => simp_all
  | succ width ih =>
    rw [Nat.pow_succ'] at hm hn
    have hlast := digitChar_inj (Nat.mod_lt m (by decide)) (Nat.mod_lt n (by decide))
    rw [lastDigits, lastDigits, append_eq_append_iff (by simp), ih (by omega) (by omega),
      List.cons.injEq, hlast, eq_self, and_true]
    omega

/-- The first digit in which two fields differ decides, as it does between the numbers. -/
theorem lastDigits_lt_lastDigits (hm : m < 10 ^ width) (hn : n < 10 ^ width) :
    lastDigits width m < lastDigits width n ↔ m < n := by
  induction width generalizing m n with
  | zero => simp_all
  | succ width ih =>
    rw [Nat.pow_succ'] at hm hn
    have hlast := digitChar_lt_digitChar (Nat.mod_lt m (by decide)) (Nat.mod_lt n (by decide))
    rw [lastDigits, lastDigits, append_lt_append_iff (by simp), ih (by omega) (by omega),
      lastDigits_inj (by omega) (by omega), List.cons_lt_cons_iff, hlast]
    simp only [List.not_lt_nil, and_false, or_false]
    omega

/-! ### Numbers of any size -/

/-- Zeros in front do not change the number. -/
theorem paddedDigits_inj : paddedDigits width m = paddedDigits width n ↔ m = n := by
  refine ⟨fun h => ?_, fun h => h ▸ rfl⟩
  have hvalue : ∀ k, Nat.ofDigitChars 10 (paddedDigits width k).toList 0 = k := by
    intro k
    rw [paddedDigits, String.toList_ofList, Nat.ofDigitChars_append,
      Nat.ofDigitChars_replicate_zero, Nat.mul_zero, Nat.ofDigitChars_ten_toDigits]
  rw [← hvalue m, h, hvalue n]

theorem isDigit_of_mem_paddedDigits {c : Char} (h : c ∈ (paddedDigits width n).toList) :
    c.isDigit = true := by
  rw [paddedDigits, String.toList_ofList, List.mem_append] at h
  rcases h with h | h
  · obtain rfl := List.eq_of_mem_replicate h
    rfl
  · exact Nat.isDigit_of_mem_toDigits (by decide) (by decide) h

/-- There is at least one digit. -/
theorem paddedDigits_toList (width n : Nat) : ∃ c cs,
    (paddedDigits width n).toList = c :: cs ∧ c.isDigit = true := by
  cases h : (paddedDigits width n).toList with
  | nil =>
    rw [paddedDigits, String.toList_ofList, List.append_eq_nil_iff] at h
    exact absurd h.2 Nat.toDigits_ne_nil
  | cons c cs =>
    exact ⟨c, cs, rfl, isDigit_of_mem_paddedDigits (h ▸ List.mem_cons_self)⟩

/-! ### Zeros left out -/

theorem not_lt_zeros {cs : List Char} (h : ∀ c ∈ cs, '0' ≤ c) :
    ¬ cs < List.replicate cs.length '0' := by
  induction cs with
  | nil => simp
  | cons c cs ih =>
    obtain ⟨hc, hcs⟩ := List.forall_mem_cons.mp h
    rw [List.length_cons, List.replicate_succ, List.cons_lt_cons_iff]
    rintro (hlt | ⟨-, hlt⟩)
    · exact Char.not_lt.mpr hc hlt
    · exact ih hcs hlt

/-- Of two fields of one width, zeros at the end of the greater one decide nothing: where it has
them, the other one has no lesser digit. -/
theorem lt_of_append_zeros_lt {xs ys : List Char} (us : List Char) (zeros : Nat)
    (hdigits : ∀ c ∈ xs ++ us, '0' ≤ c)
    (hlength : (xs ++ us).length = (ys ++ List.replicate zeros '0').length)
    (h : xs ++ us < ys ++ List.replicate zeros '0') : xs < ys := by
  induction ys generalizing xs with
  | nil =>
    rw [List.nil_append, List.length_replicate] at hlength
    rw [List.nil_append, ← hlength] at h
    exact absurd h (not_lt_zeros hdigits)
  | cons y ys ih =>
    cases xs with
    | nil => exact List.nil_lt_cons y ys
    | cons x xs =>
      simp only [List.cons_append, List.cons_lt_cons_iff] at h ⊢
      rcases h with h | ⟨rfl, h⟩
      · exact .inl h
      · exact .inr ⟨rfl, ih (List.forall_mem_cons.mp hdigits).2 (Nat.succ.inj hlength) h⟩

end SqlClient.Text
