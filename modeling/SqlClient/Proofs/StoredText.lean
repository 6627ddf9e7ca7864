import SqlClient.Proofs.Text.Order
import SqlClient.Storage

/-!
# Values stored as their text

Two values that are stored as their texts are stored alike if and only if they have one text, and
where the texts are ASCII, one is stored before the other if its text comes first.
-/

namespace SqlClient

open Text

namespace Value

/-- The value has this text, and is stored as it. -/
def IsStoredAs (v : Value) (s : String) : Prop :=
  v.getString = .ok s ∧ v.toStored = .ok (.text (toUtf8 s))

/-- Both values are stored as texts, and octet by octet that of the first comes before that of the
second. -/
def IsStoredBefore (v w : Value) : Prop :=
  ∃ x y, v.toStored = .ok (.text x) ∧ w.toStored = .ok (.text y) ∧ x < y

variable {v w : Value} {s t : String}

theorem IsStoredAs.getString_eq_iff (hv : v.IsStoredAs s) (hw : w.IsStoredAs t) :
    v.getString = w.getString ↔ s = t := by
  rw [hv.1, hw.1, Except.ok.injEq]

theorem IsStoredAs.toStored_eq_iff (hv : v.IsStoredAs s) (hw : w.IsStoredAs t) :
    v.toStored = w.toStored ↔ s = t := by
  rw [hv.2, hw.2, Except.ok.injEq, Stored.text.injEq, toUtf8, toUtf8, toList_byteArray,
    toList_byteArray, Array.toList_inj, ← ByteArray.ext_iff, String.toByteArray_inj]

theorem IsStoredAs.isStoredBefore_iff (hv : v.IsStoredAs s) (hw : w.IsStoredAs t)
    (hs : IsAscii s.toList) (ht : IsAscii t.toList) :
    v.IsStoredBefore w ↔ s.toList < t.toList := by
  rw [← encode_lt_encode hs ht, ← toUtf8_eq_encode, ← toUtf8_eq_encode]
  constructor
  · rintro ⟨x, y, hx, hy, hlt⟩
    rw [hv.2, Except.ok.injEq, Stored.text.injEq] at hx
    rw [hw.2, Except.ok.injEq, Stored.text.injEq] at hy
    rwa [hx, hy]
  · exact fun hlt => ⟨_, _, hv.2, hw.2, hlt⟩

theorem IsStoredAs.toStored_eq_iff_not_before (hv : v.IsStoredAs s) (hw : w.IsStoredAs t)
    (hs : IsAscii s.toList) (ht : IsAscii t.toList) :
    v.toStored = w.toStored ↔ ¬ v.IsStoredBefore w ∧ ¬ w.IsStoredBefore v := by
  rw [hv.toStored_eq_iff hw, hv.isStoredBefore_iff hw hs ht, hw.isStoredBefore_iff hv ht hs,
    ← eq_iff_not_lt, String.toList_inj]

end Value

end SqlClient
