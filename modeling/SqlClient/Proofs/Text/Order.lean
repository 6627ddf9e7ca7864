import SqlClient.Proofs.Text.Encoding

/-!
# Texts in order

Texts are compared octet by octet, and a text comes before every longer one that it leads. Behind
two beginnings of one length, what follows decides where the beginnings are the same. ASCII texts
compare like their characters.
-/

namespace SqlClient.Text

theorem append_eq_append_iff {α : Type} {xs ys us vs : List α} (h : xs.length = ys.length) :
    xs ++ us = ys ++ vs ↔ xs = ys ∧ us = vs := by
  refine ⟨fun heq => List.append_inj heq h, ?_⟩
  rintro ⟨rfl, rfl⟩
  rfl

theorem append_lt_append_iff {α : Type} [LT α] {xs ys us vs : List α}
    (h : xs.length = ys.length) : xs ++ us < ys ++ vs ↔ xs < ys ∨ xs = ys ∧ us < vs := by
  induction xs generalizing ys with
  | nil =>
    obtain rfl := List.eq_nil_of_length_eq_zero h.symm
    simp
  | cons x xs ih =>
    cases ys with
    | nil => simp at h
    | cons y ys =>
      rw [List.cons_append, List.cons_append, List.cons_lt_cons_iff, List.cons_lt_cons_iff,
        ih (Nat.succ.inj h), List.cons.injEq]
      tauto

theorem octet_lt_octet {c d : Char} (hc : c.toNat < 128) (hd : d.toNat < 128) :
    octet c < octet d ↔ c < d := by
  rw [UInt8.lt_iff_toNat_lt, octet_toNat hc, octet_toNat hd]
  exact UInt32.lt_iff_toNat_lt.symm

/-- Two texts are the same up to the first character of another kind. -/
theorem append_cons_inj {p : Char → Prop} {xs ys us vs : List Char} {s t : Char}
    (hxs : ∀ c ∈ xs, p c) (hys : ∀ c ∈ ys, p c) (hs : ¬ p s) (ht : ¬ p t)
    (h : xs ++ s :: us = ys ++ t :: vs) : xs = ys ∧ s :: us = t :: vs := by
  induction xs generalizing ys with
  | nil =>
    cases ys with
    | nil => exact ⟨rfl, h⟩
    | cons y ys =>
      rw [List.nil_append, List.cons_append] at h
      obtain ⟨rfl, -⟩ := List.cons.inj h
      exact absurd (hys s List.mem_cons_self) hs
  | cons x xs ih =>
    cases ys with
    | nil =>
      rw [List.nil_append, List.cons_append] at h
      obtain ⟨rfl, -⟩ := List.cons.inj h
      exact absurd (hxs x List.mem_cons_self) ht
    | cons y ys =>
      obtain ⟨rfl, htail⟩ := List.cons.inj h
      have hxs' := (List.forall_mem_cons.mp hxs).2
      have hys' := (List.forall_mem_cons.mp hys).2
      obtain ⟨rfl, hrest⟩ := ih hxs' hys' htail
      exact ⟨rfl, hrest⟩

theorem eq_iff_not_lt {cs ds : List Char} : cs = ds ↔ ¬ cs < ds ∧ ¬ ds < cs := by
  constructor
  · rintro rfl
    exact ⟨List.lt_irrefl cs, List.lt_irrefl cs⟩
  · rintro ⟨hle, hge⟩
    exact List.le_antisymm (List.not_lt.mp hge) (List.not_lt.mp hle)

/-! ### The octets -/

/-- The characters are all ASCII. -/
def IsAscii (cs : List Char) : Prop := ∀ c ∈ cs, c.toNat < 128

theorem isAscii_cons {c : Char} {cs : List Char} :
    IsAscii (c :: cs) ↔ c.toNat < 128 ∧ IsAscii cs := List.forall_mem_cons

theorem isAscii_append {cs ds : List Char} : IsAscii (cs ++ ds) ↔ IsAscii cs ∧ IsAscii ds :=
  List.forall_mem_append

theorem encode_of_isAscii {cs : List Char} (h : IsAscii cs) : encode cs = cs.map octet := by
  induction cs with
  | nil => rfl
  | cons c cs ih =>
    obtain ⟨hc, hcs⟩ := isAscii_cons.mp h
    rw [encode_cons, utf8EncodeChar_of_lt hc, ih hcs, List.map_cons, List.singleton_append]

theorem encode_lt_encode {cs ds : List Char} (hcs : IsAscii cs) (hds : IsAscii ds) :
    encode cs < encode ds ↔ cs < ds := by
  rw [encode_of_isAscii hcs, encode_of_isAscii hds]
  induction cs generalizing ds with
  | nil => cases ds <;> simp
  | cons c cs ih =>
    cases ds with
    | nil => simp
    | cons d ds =>
      obtain ⟨hc, hcs⟩ := isAscii_cons.mp hcs
      obtain ⟨hd, hds⟩ := isAscii_cons.mp hds
      rw [List.map_cons, List.map_cons, List.cons_lt_cons_iff, List.cons_lt_cons_iff,
        octet_lt_octet hc hd, octet_inj hc hd, ih hcs hds]

end SqlClient.Text
