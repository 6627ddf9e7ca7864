import SqlClient.Proofs.Calendar.Order
import SqlClient.Proofs.StoredText

/-!
# Stored dates and times in order

Dates, times of day and timestamps are stored as texts that compare, octet by octet, as the dates
and times follow one another, as long as years have four digits. A leap second comes after all other
seconds of its minute, and a fraction that is written with fewer digits after every lesser one.
-/

namespace SqlClient

open Text

theorem Time.isAscii_text (t : Time) : IsAscii t.text.toList := by
  intro c hc
  rcases mem_text hc with rfl | rfl | h
  · decide
  · decide
  · exact toNat_lt_of_isDigit h

theorem Date.isAscii_text {d : Date} (h : d.HasPlainYear) : IsAscii d.text.toList := by
  simp only [toList_text_of_plain h, isAscii_append, isAscii_cons, isAscii_lastDigits, true_and,
    and_true]
  decide

theorem DateTime.isAscii_text {t : DateTime} (h : t.date.HasPlainYear) : IsAscii t.text.toList := by
  have hblank : " ".toList = [' '] := rfl
  simp only [text, String.toList_append, hblank, isAscii_append, Date.isAscii_text h,
    Time.isAscii_text, true_and, and_true]
  exact isAscii_cons.mpr ⟨by decide, List.forall_mem_nil _⟩

namespace Value

theorem isStoredAs_date (d : Date) : (date d).IsStoredAs d.text := ⟨rfl, rfl⟩

theorem isStoredAs_time (t : Time) : (time t).IsStoredAs t.text := ⟨rfl, rfl⟩

theorem isStoredAs_timestamp (t : DateTime) : (timestamp t).IsStoredAs t.text := ⟨rfl, rfl⟩

/-- A date is stored before another if and only if it is earlier. -/
theorem isStoredBefore_date_iff {a b : Date} (ha : a.HasPlainYear) (hb : b.HasPlainYear) :
    (date a).IsStoredBefore (date b) ↔ a.Earlier b := by
  rw [(isStoredAs_date a).isStoredBefore_iff (isStoredAs_date b) (Date.isAscii_text ha)
    (Date.isAscii_text hb), Date.text_lt_text ha hb, Date.earlier_iff]

theorem toStored_date_eq_iff {a b : Date} (ha : a.HasPlainYear) (hb : b.HasPlainYear) :
    (date a).toStored = (date b).toStored ↔ a = b := by
  rw [(isStoredAs_date a).toStored_eq_iff_not_before (isStoredAs_date b) (Date.isAscii_text ha)
    (Date.isAscii_text hb), isStoredBefore_date_iff ha hb, isStoredBefore_date_iff hb ha,
    Date.earlier_iff, Date.earlier_iff, ← Date.place_inj]
  omega

/-- A time is stored before another if and only if the clock shows less. -/
theorem isStoredBefore_time_iff {a b : Time} :
    (time a).IsStoredBefore (time b) ↔ a.shownNanos < b.shownNanos := by
  rw [(isStoredAs_time a).isStoredBefore_iff (isStoredAs_time b) a.isAscii_text b.isAscii_text,
    Time.text_lt_text]

theorem toStored_time_eq_iff {a b : Time} :
    (time a).toStored = (time b).toStored ↔ a.shownNanos = b.shownNanos := by
  rw [(isStoredAs_time a).toStored_eq_iff_not_before (isStoredAs_time b) a.isAscii_text
    b.isAscii_text, isStoredBefore_time_iff, isStoredBefore_time_iff]
  omega

/-- A timestamp is stored before another if and only if its date is earlier, or the date is the same
and the clock shows less. -/
theorem isStoredBefore_timestamp_iff {a b : DateTime} (ha : a.date.HasPlainYear)
    (hb : b.date.HasPlainYear) : (timestamp a).IsStoredBefore (timestamp b) ↔
      a.date.Earlier b.date ∨ a.date = b.date ∧ a.time.shownNanos < b.time.shownNanos := by
  rw [(isStoredAs_timestamp a).isStoredBefore_iff (isStoredAs_timestamp b)
    (DateTime.isAscii_text ha) (DateTime.isAscii_text hb), DateTime.text_lt_text ha hb,
    Date.earlier_iff]

theorem toStored_timestamp_eq_iff {a b : DateTime} (ha : a.date.HasPlainYear)
    (hb : b.date.HasPlainYear) : (timestamp a).toStored = (timestamp b).toStored ↔
      a.date = b.date ∧ a.time.shownNanos = b.time.shownNanos := by
  rw [(isStoredAs_timestamp a).toStored_eq_iff_not_before (isStoredAs_timestamp b)
    (DateTime.isAscii_text ha) (DateTime.isAscii_text hb), isStoredBefore_timestamp_iff ha hb,
    isStoredBefore_timestamp_iff hb ha, Date.earlier_iff, Date.earlier_iff, ← Date.place_inj,
    ← Date.place_inj]
  omega

end Value

end SqlClient
