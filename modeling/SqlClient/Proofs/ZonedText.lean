import SqlClient.Proofs.Calendar.Text
import SqlClient.Proofs.StoredText

/-!
# Texts of times with an offset

The text of a time at an offset says what the clock shows and which offset it is, that of a
timestamp says no more of the offset than its minutes. So timestamps at offsets less than a minute
apart may share a text, and then stand for different points of the time line.
-/

namespace SqlClient

open Text

/-- A time ends where the sign of its offset begins. -/
theorem Time.text_append_offset {a b : Time} {o p : Offset} {us vs : List Char} :
    a.text.toList ++ o.signChar :: us = b.text.toList ++ p.signChar :: vs ↔
      a.shownNanos = b.shownNanos ∧ o.signChar :: us = p.signChar :: vs := by
  have hclock : ∀ t : Time, ∀ c ∈ t.text.toList, c ≠ '-' ∧ c ≠ '+' := by
    intro t c hc
    constructor
    all_goals
      rintro rfl
      rcases mem_text hc with h | h | h <;> exact absurd h (by decide)
  have hsign : ∀ o : Offset, ¬ (o.signChar ≠ '-' ∧ o.signChar ≠ '+') := by
    intro o
    rw [Offset.signChar]
    split_ifs <;> simp
  rw [← text_eq_text]
  constructor
  · exact append_cons_inj (hclock a) (hclock b) (hsign o) (hsign p)
  · rintro ⟨htime, hoffset⟩
    rw [htime, hoffset]

theorem OffsetTime.text_inj {a b : OffsetTime} :
    a.text = b.text ↔ a.time.shownNanos = b.time.shownNanos ∧ a.offset = b.offset := by
  rw [← String.toList_inj, text, text, String.toList_append, String.toList_append,
    ← Offset.text_inj (a := a.offset), Offset.toList_text, Offset.toList_text]
  exact Time.text_append_offset

theorem OffsetDateTime.text_inj {a b : OffsetDateTime} :
    a.text = b.text ↔ a.shown.date = b.shown.date ∧
      a.shown.time.shownNanos = b.shown.time.shownNanos ∧
      a.offset.shownMinutes = b.offset.shownMinutes := by
  have hblank : " ".toList = [' '] := rfl
  rw [← String.toList_inj, ← Offset.minuteText_inj]
  simp only [text, DateTime.text, String.toList_append, List.append_assoc, hblank,
    List.singleton_append, Offset.toList_minuteText]
  rw [← Time.text_append_offset]
  constructor
  · intro h
    obtain ⟨hdate, htail⟩ := Date.eq_of_text_append h
    exact ⟨hdate, (List.cons.inj htail).2⟩
  · rintro ⟨hdate, htail⟩
    rw [hdate, List.cons_append, List.cons_append, htail]

/-- Whole minutes are not rounded. -/
theorem Offset.shownMinutes_inj {a b : Offset} (ha : a.seconds % 60 = 0) (hb : b.seconds % 60 = 0) :
    a.shownMinutes = b.shownMinutes ↔ a = b := by
  refine ⟨fun h => ?_, fun h => h ▸ rfl⟩
  rw [shownMinutes, shownMinutes, Prod.mk.injEq, decide_eq_decide] at h
  have hseconds : a.seconds = b.seconds := by omega
  obtain ⟨_, _⟩ := a
  obtain ⟨_, _⟩ := b
  simp_all only

/-! ### The values -/

namespace Value

theorem isStoredAs_timeTz (t : OffsetTime) : (timeTz t).IsStoredAs t.text := ⟨rfl, rfl⟩

theorem isStoredAs_timestampTz (t : OffsetDateTime) : (timestampTz t).IsStoredAs t.text :=
  ⟨rfl, rfl⟩

/-- The stored texts of two times with an offset are the same if and only if the clock shows the
same and the offset is the same, to the second. For times that a clock can name, this means that
the times are the same. The stored texts of two timestamps with an offset are the same if and only
if calendar and clock show the same and the offsets have the same sign and the same minutes,
rounded. For times that a clock can name and offsets of whole minutes, this means that the
timestamps are the same, and with them their points of the time line. -/
theorem zoned_texts (s t : OffsetTime) (a b : OffsetDateTime) :
    (((timeTz s).toStored = (timeTz t).toStored ↔ (timeTz s).getString = (timeTz t).getString) ∧
      ((timeTz s).getString = (timeTz t).getString ↔
        s.time.shownNanos = t.time.shownNanos ∧ s.offset = t.offset) ∧
      (s.time.IsReading → t.time.IsReading →
        ((timeTz s).getString = (timeTz t).getString ↔ s = t))) ∧
    ((timestampTz a).toStored = (timestampTz b).toStored ↔
      (timestampTz a).getString = (timestampTz b).getString) ∧
    ((timestampTz a).getString = (timestampTz b).getString ↔
      a.shown.date = b.shown.date ∧ a.shown.time.shownNanos = b.shown.time.shownNanos ∧
        a.offset.shownMinutes = b.offset.shownMinutes) ∧
    (a.shown.time.IsReading → b.shown.time.IsReading →
      a.offset.seconds % 60 = 0 → b.offset.seconds % 60 = 0 →
      ((timestampTz a).getString = (timestampTz b).getString ↔ a = b)) := by
  constructor
  · have hs := isStoredAs_timeTz s
    have ht := isStoredAs_timeTz t
    rw [hs.toStored_eq_iff ht, hs.getString_eq_iff ht, OffsetTime.text_inj]
    refine ⟨Iff.rfl, Iff.rfl, fun hsread htread => ?_⟩
    rw [Time.shownNanos_inj hsread htread]
    obtain ⟨_, _⟩ := s
    obtain ⟨_, _⟩ := t
    rw [OffsetTime.mk.injEq]
  · have ha := isStoredAs_timestampTz a
    have hb := isStoredAs_timestampTz b
    rw [ha.toStored_eq_iff hb, ha.getString_eq_iff hb, OffsetDateTime.text_inj]
    refine ⟨Iff.rfl, Iff.rfl, fun hta htb hoa hob => ?_⟩
    rw [Time.shownNanos_inj hta htb, Offset.shownMinutes_inj hoa hob]
    obtain ⟨⟨_, _⟩, _, _⟩ := a
    obtain ⟨⟨_, _⟩, _, _⟩ := b
    simp only [OffsetDateTime.mk.injEq, DateTime.mk.injEq, and_assoc]

/-- Twelve o'clock at an offset of an hour, and at one of an hour and ten seconds: two points of the
time line with one text. The same times of day have different texts. -/
theorem zoned_texts_rounded :
    let shown : DateTime := ⟨⟨2020, 1, 1, by decide⟩, ⟨43200, 0, by decide, by decide⟩⟩
    let hour : Offset := ⟨3600, by decide⟩
    let longer : Offset := ⟨3610, by decide⟩
    let a : OffsetDateTime := ⟨shown, hour, by decide⟩
    let b : OffsetDateTime := ⟨shown, longer, by decide⟩
    ((timestampTz a).getString = .ok "2020-01-01 12:00:00+01:00" ∧
      (timestampTz a).getString = (timestampTz b).getString ∧
      (timestampTz a).toStored = (timestampTz b).toStored ∧
      a.offset ≠ b.offset ∧ a.toInstant ≠ b.toInstant) ∧
    (timeTz ⟨shown.time, longer⟩).getString = .ok "12:00:00+01:00:10" := by
  intro shown hour longer a b
  have ha := isStoredAs_timestampTz a
  have hb := isStoredAs_timestampTz b
  have hsame : a.text = b.text := OffsetDateTime.text_inj.mpr ⟨rfl, rfl, by decide⟩
  have htext : a.text = "2020-01-01 12:00:00+01:00" := by decide +kernel
  have htime : OffsetTime.text ⟨shown.time, longer⟩ = "12:00:00+01:00:10" := by decide +kernel
  refine ⟨⟨?_, (ha.getString_eq_iff hb).mpr hsame, (ha.toStored_eq_iff hb).mpr hsame, by decide,
    by decide⟩, ?_⟩
  · rw [ha.1, htext]
  · rw [(isStoredAs_timeTz _).1, htime]

end Value

end SqlClient
