import Mathlib.Logic.Relation
import SqlClient.Proofs.Calendar.Text

/-!
# The order of time

A date is earlier than another if one comes from it to the other by going on day by day. That is the
order of year, month and day, and the texts of dates with years of four digits have the same order.
So do the texts of times that a clock can name, leap seconds among them.
-/

namespace SqlClient

open Text

namespace Date

/-- Going on day by day, one comes from the first date to the second. -/
def Earlier : Date → Date → Prop := Relation.TransGen fun a b => a.next? = some b

/-- The place of a date in a calendar in which every month has 31 days. -/
def place (d : Date) : Int := (d.year * 12 + d.month) * 31 + d.day

theorem place_inj {a b : Date} : a.place = b.place ↔ a = b := by
  refine ⟨fun h => ?_, fun h => h ▸ rfl⟩
  obtain ⟨-, -, hmonth, hmonth', hday, -⟩ := a.isDate
  obtain ⟨-, -, hmonthb, hmonthb', hdayb, -⟩ := b.isDate
  have hlast := a.day_le
  have hlastb := b.day_le
  rw [place, place] at h
  have hyear : a.year = b.year := by omega
  have hmonths : a.month = b.month := by omega
  have hdays : a.day = b.day := by omega
  obtain ⟨_, _, _, _⟩ := a
  obtain ⟨_, _, _, _⟩ := b
  simp_all only

theorem place_of_ofFields? {year : Int} {month day : Nat} {d : Date}
    (h : ofFields? year month day = some d) : d.place = (year * 12 + month) * 31 + day := by
  rw [ofFields?] at h
  split_ifs at h
  obtain rfl := Option.some.inj h
  rfl

theorem exists_ofFields? {year : Int} {month day : Nat} (h : IsDate year month day) :
    ∃ d, ofFields? year month day = some d ∧ d.place = (year * 12 + month) * 31 + day :=
  ⟨⟨year, month, day, h⟩, dif_pos h, rfl⟩

/-- The day after has a later place. -/
theorem place_lt_of_next? {a b : Date} (h : a.next? = some b) : a.place < b.place := by
  obtain ⟨-, -, -, hmonth, -, -⟩ := a.isDate
  have hlast := a.day_le
  rw [next?] at h
  rw [place]
  split_ifs at h with hday hmonths
  all_goals
    rw [place_of_ofFields? h]
    omega

/-- A date that is not the last one has a day after, and no date lies between the two. -/
theorem exists_next? {a b : Date} (h : a.place < b.place) :
    ∃ c, a.next? = some c ∧ c.place ≤ b.place := by
  obtain ⟨hlow, hhigh, hmonth, hmonth', hday, hlast⟩ := a.isDate
  obtain ⟨hlowb, hhighb, hmonthb, hmonthb', hdayb, hlastb⟩ := b.isDate
  have hdays := b.day_le
  have hfirst : ∀ year month, 1 ≤ daysInMonth year month := fun year month =>
    Nat.le_trans (by decide) (daysInMonth_bounds year month).1
  rw [place, place] at h
  rw [next?, place]
  by_cases hinside : a.day < daysInMonth a.year a.month
  · obtain ⟨c, hc, hplace⟩ := exists_ofFields?
      (⟨hlow, hhigh, hmonth, hmonth', by omega, hinside⟩ : IsDate a.year a.month (a.day + 1))
    exact ⟨c, by rw [if_pos hinside, hc], by omega⟩
  · -- the other date is in a later month, as this one ends its own
    have hlater : a.year * 12 + a.month < b.year * 12 + b.month := by
      by_contra hsame
      have hyear : b.year = a.year := by omega
      have hmonths : b.month = a.month := by omega
      rw [hyear, hmonths] at hlastb
      omega
    rw [if_neg hinside]
    by_cases hmonths : a.month < 12
    · obtain ⟨c, hc, hplace⟩ := exists_ofFields?
        (⟨hlow, hhigh, by omega, by omega, by decide, hfirst _ _⟩ :
          IsDate a.year (a.month + 1) 1)
      exact ⟨c, by rw [if_pos hmonths, hc], by omega⟩
    · obtain ⟨c, hc, hplace⟩ := exists_ofFields?
        (⟨by omega, by omega, by decide, by decide, by decide, hfirst _ _⟩ :
          IsDate (a.year + 1) 1 1)
      exact ⟨c, by rw [if_neg hmonths, hc], by omega⟩

theorem earlier_iff {a b : Date} : a.Earlier b ↔ a.place < b.place := by
  constructor
  · intro h
    induction h with
    | single hnext => exact place_lt_of_next? hnext
    | tail _ hnext ih => exact Int.lt_trans ih (place_lt_of_next? hnext)
  · intro h
    -- by induction on how far apart the places are
    induction hn : (b.place - a.place).toNat using Nat.strongRecOn generalizing a with
    | _ n ih =>
      obtain ⟨c, hc, hle⟩ := exists_next? h
      have hlt := place_lt_of_next? hc
      by_cases hsame : c.place = b.place
      · exact .single (place_inj.mp hsame ▸ hc)
      · exact .head hc (ih _ (by omega) (by omega) rfl)

/-- The year is written in four digits. -/
def HasPlainYear (d : Date) : Prop := 0 ≤ d.year ∧ d.year ≤ 9999

instance (d : Date) : Decidable d.HasPlainYear := inferInstanceAs (Decidable (_ ∧ _))

theorem toList_text_of_plain {d : Date} (h : d.HasPlainYear) :
    d.text.toList = lastDigits 4 d.year.natAbs ++
      '-' :: (lastDigits 2 d.month ++ '-' :: lastDigits 2 d.day) := by
  obtain ⟨hlow, hhigh⟩ := h
  rw [toList_text, yearText, if_pos ⟨hlow, hhigh⟩, toList_paddedDigits (by decide) (by omega)]

/-- Texts of dates compare like the dates. -/
theorem text_lt_text {a b : Date} (ha : a.HasPlainYear) (hb : b.HasPlainYear) :
    a.text.toList < b.text.toList ↔ a.place < b.place := by
  obtain ⟨-, -, hmonth, hmonth', hday, -⟩ := a.isDate
  obtain ⟨-, -, hmonthb, hmonthb', hdayb, -⟩ := b.isDate
  have hlast := a.day_le
  have hlastb := b.day_le
  simp only [toList_text_of_plain, ha, hb, append_lt_append_iff, List.cons_lt_cons_iff,
    length_lastDigits, Char.lt_irrefl, false_or, true_and]
  obtain ⟨ha, ha'⟩ := ha
  obtain ⟨hb, hb'⟩ := hb
  rw [lastDigits_lt_lastDigits, lastDigits_inj, lastDigits_lt_lastDigits, lastDigits_inj,
    lastDigits_lt_lastDigits, place, place]
  all_goals omega

end Date

namespace Time

/-- The time is in an earlier second, or in the same second and earlier there. A leap second belongs
to the second before it. -/
def Earlier (a b : Time) : Prop := a.second < b.second ∨ a.second = b.second ∧ a.nano < b.nano

instance (a b : Time) : Decidable (a.Earlier b) := inferInstanceAs (Decidable (_ ∨ _))

theorem shownNanos_lt_shownNanos {a b : Time} (ha : a.IsReading) (hb : b.IsReading) :
    a.shownNanos < b.shownNanos ↔ a.Earlier b := by
  rw [isReading_iff] at ha hb
  have ha' := a.nano_lt
  have hb' := b.nano_lt
  simp only [shownNanos, shownSecond, Earlier]
  omega

end Time

namespace DateTime

/-- The date is earlier, or the date is the same and the time is earlier. -/
def Earlier (a b : DateTime) : Prop :=
  a.date.Earlier b.date ∨ a.date = b.date ∧ a.time.Earlier b.time

/-- Texts of dates with a time compare like the dates, and like what the clock shows on one date. -/
theorem text_lt_text {a b : DateTime} (ha : a.date.HasPlainYear) (hb : b.date.HasPlainYear) :
    a.text.toList < b.text.toList ↔ a.date.place < b.date.place ∨
      a.date = b.date ∧ a.time.shownNanos < b.time.shownNanos := by
  have hblank : " ".toList = [' '] := rfl
  have hlength : a.date.text.toList.length = b.date.text.toList.length := by
    simp only [Date.toList_text_of_plain, ha, hb, List.length_append, List.length_cons,
      length_lastDigits]
  have hdate : a.date.text.toList = b.date.text.toList ↔ a.date = b.date := by
    rw [eq_iff_not_lt, Date.text_lt_text ha hb, Date.text_lt_text hb ha, ← Date.place_inj]
    omega
  simp only [text, String.toList_append, hblank, List.append_assoc, List.singleton_append]
  rw [append_lt_append_iff hlength, Date.text_lt_text ha hb, hdate, List.cons_lt_cons_iff,
    Time.text_lt_text]
  simp only [Char.lt_irrefl, false_or, true_and]

end DateTime

end SqlClient
