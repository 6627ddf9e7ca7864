import Mathlib.Data.List.Basic
import Mathlib.Tactic.Common
import SqlClient.Text.Utf8

/-!
# The octets of a text

The octets of a text are those of its characters, one character after the other. An ASCII character
is one octet below 128, every octet of any other character is 128 or more, so no octet of one kind
is ever taken for an octet of the other.
-/

namespace SqlClient.Text

/-- The octets of characters. -/
def encode (cs : List Char) : List UInt8 := cs.flatMap String.utf8EncodeChar

/-- The octet of an ASCII character. -/
def octet (c : Char) : UInt8 := UInt8.ofNat c.toNat

/-- Whether an octet belongs to a character beyond ASCII. -/
def IsHigh (b : UInt8) : Prop := 128 ≤ b.toNat

@[simp] theorem encode_nil : encode [] = [] := rfl

@[simp] theorem encode_cons (c : Char) (cs : List Char) :
    encode (c :: cs) = String.utf8EncodeChar c ++ encode cs := rfl

@[simp] theorem encode_append (cs ds : List Char) : encode (cs ++ ds) = encode cs ++ encode ds :=
  List.flatMap_append

theorem toList_byteArray (bs : ByteArray) : bs.toList = bs.data.toList := by
  have loop : ∀ (i : Nat) (r : List UInt8),
      ByteArray.toList.loop bs i r = r.reverse ++ bs.data.toList.drop i := by
    intro i r
    fun_induction ByteArray.toList.loop bs i r with
    | case1 i r h ih =>
      have hi : i < bs.data.toList.length := h
      have hget : bs.get! i = bs.data.toList[i] := getElem!_pos bs.data i h
      rw [ih, List.drop_eq_getElem_cons hi, List.reverse_cons, List.append_assoc, hget]; rfl
    | case2 i r h =>
      have hi : bs.data.toList.length ≤ i := Nat.le_of_not_lt h
      rw [List.drop_eq_nil_of_le hi, List.append_nil]
  rw [ByteArray.toList, loop]; rfl

/-- The octets of a text are those of its characters. -/
theorem toUtf8_eq_encode (s : String) : toUtf8 s = encode s.toList := by
  rw [toUtf8, toList_byteArray, ← String.utf8Encode_toList, List.utf8Encode,
    List.toList_data_toByteArray, encode]

/-! ### ASCII and beyond -/

theorem utf8EncodeChar_of_lt {c : Char} (h : c.toNat < 128) :
    String.utf8EncodeChar c = [octet c] := by
  have hc : c.val.toNat ≤ 0x7f := by unfold Char.toNat at h; omega
  rw [String.utf8EncodeChar, if_pos hc]; rfl

/-- No octet of a character beyond ASCII is an ASCII character. -/
theorem isHigh_of_mem {c : Char} (h : 128 ≤ c.toNat) :
    ∀ b ∈ String.utf8EncodeChar c, IsHigh b := by
  have hc : ¬ c.val.toNat ≤ 0x7f := by unfold Char.toNat at h; omega
  have high : ∀ n m : Nat, 128 ≤ m → n + m < 256 → IsHigh (UInt8.ofNat (n + m)) := by
    intro n m hm hlt
    rw [IsHigh, UInt8.toNat_ofNat_of_lt' hlt]; omega
  intro b hb
  rw [String.utf8EncodeChar, if_neg hc] at hb
  split_ifs at hb <;> simp only [List.mem_cons, List.not_mem_nil, or_false] at hb <;>
    rcases hb with rfl | rfl | rfl | rfl <;> exact high _ _ (by decide) (by omega)

theorem octet_toNat {c : Char} (h : c.toNat < 128) : (octet c).toNat = c.toNat := by
  rw [octet, UInt8.toNat_ofNat_of_lt' (by omega : c.toNat < 256)]

theorem not_isHigh_octet {c : Char} (h : c.toNat < 128) : ¬ IsHigh (octet c) := by
  rw [IsHigh, octet_toNat h]; omega

/-- Different ASCII characters have different octets. -/
theorem octet_inj {c d : Char} (hc : c.toNat < 128) (hd : d.toNat < 128) :
    octet c = octet d ↔ c = d := by
  refine ⟨fun h => ?_, fun h => h ▸ rfl⟩
  have hn := congrArg UInt8.toNat h
  rw [octet_toNat hc, octet_toNat hd] at hn
  exact Char.toNat_inj.mp hn

/-- The octet of an ASCII character occurs in the encoding of that character alone. -/
theorem octet_mem_utf8EncodeChar {a c : Char} (ha : a.toNat < 128) :
    octet a ∈ String.utf8EncodeChar c ↔ c = a := by
  rcases Nat.lt_or_ge c.toNat 128 with hc | hc
  · rw [utf8EncodeChar_of_lt hc, List.mem_singleton, octet_inj ha hc]
    exact eq_comm
  · refine ⟨fun hmem => absurd (isHigh_of_mem hc _ hmem) (not_isHigh_octet ha), ?_⟩
    rintro rfl
    omega

/-- ASCII characters lead a text exactly where their octets lead its octets. -/
theorem encode_prefix_iff {as : List Char} (has : ∀ a ∈ as, a.toNat < 128) :
    ∀ {cs : List Char}, encode as <+: encode cs ↔ as <+: cs := by
  induction as with
  | nil => exact fun {cs} => ⟨fun _ => List.nil_prefix, fun _ => List.nil_prefix⟩
  | cons a as ih =>
    have ha : a.toNat < 128 := has a List.mem_cons_self
    have ih := @ih fun b hb => has b (List.mem_cons_of_mem a hb)
    intro cs
    rw [encode_cons, utf8EncodeChar_of_lt ha, List.singleton_append]
    cases cs with
    | nil => simp
    | cons c cs =>
      rw [encode_cons, List.cons_prefix_cons]
      rcases Nat.lt_or_ge c.toNat 128 with hc | hc
      · rw [utf8EncodeChar_of_lt hc, List.singleton_append, List.cons_prefix_cons, octet_inj ha hc,
          ih]
      · constructor
        · intro hpre
          obtain ⟨b, w, hw⟩ := List.exists_cons_of_ne_nil (String.utf8EncodeChar_ne_nil (c := c))
          rw [hw, List.cons_append, List.cons_prefix_cons] at hpre
          have hmem : octet a ∈ String.utf8EncodeChar c := by
            rw [hw, hpre.1]; exact List.mem_cons_self
          exact absurd (isHigh_of_mem hc _ hmem) (not_isHigh_octet ha)
        · rintro ⟨rfl, _⟩
          omega

/-- An ASCII octet of a text stands in front of its first character or behind it, never within. -/
theorem length_le_of_encode_cons {a c : Char} {cs : List Char} {x y : List UInt8}
    (ha : a.toNat < 128) (h : encode (c :: cs) = x ++ octet a :: y) (hx : x ≠ []) :
    (String.utf8EncodeChar c).length ≤ x.length := by
  rcases Nat.lt_or_ge c.toNat 128 with hc | hc
  · rw [utf8EncodeChar_of_lt hc]
    exact List.length_pos_of_ne_nil hx
  · by_contra hlt
    have hmem : octet a ∈ String.utf8EncodeChar c := by
      have hget := congrArg (·[x.length]?) h
      rw [encode_cons, List.getElem?_append_left (by omega),
        List.getElem?_append_right (Nat.le_refl _), Nat.sub_self, List.getElem?_cons_zero] at hget
      exact List.mem_of_getElem? hget
    exact not_isHigh_octet ha (isHigh_of_mem hc _ hmem)

end SqlClient.Text
