import SqlClient.Calendar.DateTime
import SqlClient.Proofs.Text.Digits

/-!
# Readings of clock and calendar as texts

The fields of a date and of a time are numbers of fixed width, but for the year and the fraction of
a second.
-/

namespace SqlClient

open Text

namespace Time

/-! ### The fraction -/

/-- The fraction is nothing, or a point and nine digits of which zeros at the end are left out. -/
theorem fractionText_cases (nano : Nat) :
    nano % 1000000000 = 0 ∧ (fractionText nano).toList = [] ∨
      0 < nano % 1000000000 ∧ ∃ digits zeros, (fractionText nano).toList = '.' :: digits ∧
        digits ++ List.replicate zeros '0' = lastDigits 9 (nano % 1000000000) := by
  rw [fractionText]
  generalize hn : nano % 1000000000 = n
  have hlt : n < 1000000000 := by omega
  have hpoint : ∀ s : String, ("." ++ s).toList = '.' :: s.toList := fun s => by
    rw [String.toList_append]
    rfl
  split_ifs with hzero hthree hsix
  · exact .inl ⟨hzero, rfl⟩
  · refine .inr ⟨by omega, lastDigits 3 (n / 1000000), 6, ?_, ?_⟩
    · rw [hpoint, toList_paddedDigits (by decide) (by omega)]
    · have hsplit : lastDigits 9 n = lastDigits 3 (n / 1000000) ++ lastDigits 6 n :=
        lastDigits_add 3 6 n
      have hzeros : lastDigits 6 n = List.replicate 6 '0' := lastDigits_of_mod_eq_zero hthree
      rw [hsplit, hzeros]
  · refine .inr ⟨by omega, lastDigits 6 (n / 1000), 3, ?_, ?_⟩
    · rw [hpoint, toList_paddedDigits (by decide) (by omega)]
    · have hsplit : lastDigits 9 n = lastDigits 6 (n / 1000) ++ lastDigits 3 n :=
        lastDigits_add 6 3 n
      have hzeros : lastDigits 3 n = List.replicate 3 '0' := lastDigits_of_mod_eq_zero hsix
      rw [hsplit, hzeros]
  · refine .inr ⟨by omega, lastDigits 9 n, 0, ?_, List.append_nil _⟩
    rw [hpoint, toList_paddedDigits (by decide) (by omega)]

theorem fractionText_mod (nano : Nat) : fractionText (nano % 1000000000) = fractionText nano := by
  rw [fractionText, Nat.mod_mod, fractionText]

theorem zero_le_of_mem_lastDigits {width n : Nat} {c : Char} (h : c ∈ lastDigits width n) :
    '0' ≤ c := by
  have hdigit := isDigit_of_mem_lastDigits h
  rw [Char.isDigit, Bool.and_eq_true, decide_eq_true_eq] at hdigit
  exact hdigit.1

theorem fractionText_lt_of_lt {m n : Nat} (h : m % 1000000000 < n % 1000000000) :
    (fractionText m).toList < (fractionText n).toList := by
  rcases fractionText_cases n with ⟨hn, -⟩ | ⟨-, ys, zeros, hn, hys⟩
  · omega
  rw [hn]
  rcases fractionText_cases m with ⟨-, hm⟩ | ⟨-, xs, more, hm, hxs⟩
  · rw [hm]
    exact List.nil_lt_cons _ _
  rw [hm, List.cons_lt_cons_iff]
  refine .inr ⟨rfl, lt_of_append_zeros_lt (List.replicate more '0') zeros ?_ ?_ ?_⟩
  · rw [hxs]
    exact fun c hc => zero_le_of_mem_lastDigits hc
  · rw [hxs, hys, length_lastDigits, length_lastDigits]
  · rw [hxs, hys]
    exact (lastDigits_lt_lastDigits (by omega) (by omega)).mpr h

/-- Fractions compare like the nanoseconds they show. -/
theorem fractionText_lt_fractionText {m n : Nat} :
    (fractionText m).toList < (fractionText n).toList ↔ m % 1000000000 < n % 1000000000 := by
  refine ⟨fun h => ?_, fractionText_lt_of_lt⟩
  rcases Nat.lt_trichotomy (m % 1000000000) (n % 1000000000) with hlt | heq | hgt
  · exact hlt
  · rw [← fractionText_mod m, heq, fractionText_mod] at h
    exact absurd h (List.lt_irrefl _)
  · exact absurd h (List.lt_asymm (fractionText_lt_of_lt hgt))

/-! ### The time -/

/-- What the clock shows, as nanoseconds of days in which every minute has 61 seconds. -/
def shownNanos (t : Time) : Nat :=
  (t.second / 60 * 61 + t.shownSecond) * 1000000000 + t.nano % 1000000000

theorem toList_text (t : Time) :
    t.text.toList = lastDigits 2 t.hour ++ ':' :: (lastDigits 2 t.minute ++
      ':' :: (lastDigits 2 t.shownSecond ++ (fractionText t.nano).toList)) := by
  have hsecond := t.second_lt
  have hnano := t.nano_lt
  have hcolon : ":".toList = [':'] := rfl
  rw [secondsPerDay] at hsecond
  simp only [text, String.toList_append, hcolon]
  rw [toList_paddedDigits (by decide) (by rw [hour]; omega),
    toList_paddedDigits (by decide) (by rw [minute]; omega),
    toList_paddedDigits (by decide) (by rw [shownSecond]; omega)]
  simp only [List.append_assoc, List.cons_append, List.nil_append]

/-- Texts of times compare like what the clock shows. -/
theorem text_lt_text {a b : Time} :
    a.text.toList < b.text.toList ↔ a.shownNanos < b.shownNanos := by
  have ha := a.second_lt
  have hb := b.second_lt
  have ha' := a.nano_lt
  have hb' := b.nano_lt
  rw [secondsPerDay] at ha hb
  simp only [toList_text, append_lt_append_iff, List.cons_lt_cons_iff, length_lastDigits,
    Char.lt_irrefl, false_or, true_and, fractionText_lt_fractionText]
  rw [lastDigits_lt_lastDigits, lastDigits_inj, lastDigits_lt_lastDigits, lastDigits_inj,
    lastDigits_lt_lastDigits, lastDigits_inj]
  all_goals simp only [hour, minute, shownSecond, shownNanos]
  all_goals omega

/-- Times have one text if and only if the clock shows the same. -/
theorem text_eq_text {a b : Time} :
    a.text.toList = b.text.toList ↔ a.shownNanos = b.shownNanos := by
  rw [eq_iff_not_lt, text_lt_text, text_lt_text]
  omega

/-- The time is one that hour, minute, second and nanosecond of a clock name. -/
def IsReading (t : Time) : Prop :=
  ∃ hour minute second nano, ofFields? hour minute second nano = some t

/-- A clock shows leap seconds at the end of a minute alone. -/
theorem isReading_iff {t : Time} : t.IsReading ↔ (1000000000 ≤ t.nano → t.second % 60 = 59) := by
  obtain ⟨second, nano, hsecond, hnano⟩ := t
  constructor
  · rintro ⟨_, _, _, _, h⟩
    rw [ofFields?] at h
    split_ifs at h with hfields
    obtain ⟨rfl, rfl⟩ := Time.mk.inj (Option.some.inj h)
    dsimp only
    omega
  · intro h
    dsimp only at h
    have hday : second < 86400 := hsecond
    refine ⟨second / 3600, second / 60 % 60, second % 60, nano, ?_⟩
    rw [ofFields?, dif_pos (by omega), Option.some_inj, Time.mk.injEq]
    omega

theorem shownNanos_inj {a b : Time} (ha : a.IsReading) (hb : b.IsReading) :
    a.shownNanos = b.shownNanos ↔ a = b := by
  refine ⟨fun h => ?_, fun h => h ▸ rfl⟩
  rw [isReading_iff] at ha hb
  have ha' := a.nano_lt
  have hb' := b.nano_lt
  simp only [shownNanos, shownSecond] at h
  have hsecond : a.second = b.second := by omega
  have hnano : a.nano = b.nano := by omega
  obtain ⟨_, _, _, _⟩ := a
  obtain ⟨_, _, _, _⟩ := b
  simp_all only

theorem mem_fractionText {nano : Nat} {c : Char} (h : c ∈ (fractionText nano).toList) :
    c = '.' ∨ c.isDigit = true := by
  rcases fractionText_cases nano with ⟨-, hnone⟩ | ⟨-, digits, zeros, hsome, hdigits⟩
  · rw [hnone] at h
    cases h
  · rw [hsome] at h
    rcases List.mem_cons.mp h with rfl | h
    · exact .inl rfl
    · have hmem := List.mem_append_left (List.replicate zeros '0') h
      rw [hdigits] at hmem
      exact .inr (isDigit_of_mem_lastDigits hmem)

theorem mem_text {t : Time} {c : Char} (h : c ∈ t.text.toList) :
    c = ':' ∨ c = '.' ∨ c.isDigit = true := by
  simp only [toList_text, List.mem_append, List.mem_cons] at h
  rcases h with h | rfl | h | rfl | h | h
  · exact .inr (.inr (isDigit_of_mem_lastDigits h))
  · exact .inl rfl
  · exact .inr (.inr (isDigit_of_mem_lastDigits h))
  · exact .inl rfl
  · exact .inr (.inr (isDigit_of_mem_lastDigits h))
  · exact .inr (mem_fractionText h)

end Time

/-! ### Dates -/

theorem daysInMonth_bounds (year : Int) (month : Nat) :
    28 ≤ daysInMonth year month ∧ daysInMonth year month ≤ 31 := by
  unfold daysInMonth
  split
  · split_ifs <;> decide
  all_goals decide

namespace Date

theorem day_le (d : Date) : d.day ≤ 31 :=
  Nat.le_trans d.isDate.2.2.2.2.2 (daysInMonth_bounds d.year d.month).2

theorem toList_text (d : Date) :
    d.text.toList = (yearText d.year).toList ++
      '-' :: (lastDigits 2 d.month ++ '-' :: lastDigits 2 d.day) := by
  obtain ⟨-, -, -, hmonth, -, -⟩ := d.isDate
  have hday := d.day_le
  have hdash : "-".toList = ['-'] := rfl
  simp only [text, String.toList_append, hdash]
  rw [toList_paddedDigits (by decide) (by omega), toList_paddedDigits (by decide) (by omega)]
  simp only [List.append_assoc, List.cons_append, List.nil_append]

/-- The sign in front of the digits of a year. -/
def yearSign (year : Int) : List Char :=
  if 0 ≤ year ∧ year ≤ 9999 then [] else if year < 0 then ['-'] else ['+']

theorem toList_yearText (year : Int) :
    (yearText year).toList = yearSign year ++ (paddedDigits 4 year.natAbs).toList := by
  have hdash : "-".toList = ['-'] := rfl
  have hplus : "+".toList = ['+'] := rfl
  rw [yearText, yearSign]
  split_ifs
  · rw [List.nil_append]
  · rw [String.toList_append, hdash]
  · rw [String.toList_append, hplus]

theorem not_isDigit_of_mem_yearSign {year : Int} {c : Char} (h : c ∈ yearSign year) :
    ¬ c.isDigit = true := by
  rw [yearSign] at h
  split_ifs at h
  · cases h
  · obtain rfl := List.mem_singleton.mp h
    decide
  · obtain rfl := List.mem_singleton.mp h
    decide

/-- The sign of a year ends at the first digit and its digits at the first dash, so the text says
which year it is and where the rest begins. -/
theorem eq_of_yearText_append {y z : Int} {us vs : List Char}
    (h : (yearText y).toList ++ '-' :: us = (yearText z).toList ++ '-' :: vs) :
    y = z ∧ us = vs := by
  obtain ⟨c, cs, hy, hc⟩ := paddedDigits_toList 4 y.natAbs
  obtain ⟨d, ds, hz, hd⟩ := paddedDigits_toList 4 z.natAbs
  have hdigits : ∀ n, ∀ c ∈ (paddedDigits 4 n).toList, c.isDigit = true :=
    fun n c hc => isDigit_of_mem_paddedDigits hc
  simp only [toList_yearText, List.append_assoc] at h
  rw [hy, hz, List.cons_append, List.cons_append] at h
  obtain ⟨hsign, h⟩ := append_cons_inj (fun _ => not_isDigit_of_mem_yearSign)
    (fun _ => not_isDigit_of_mem_yearSign) (not_not.mpr hc) (not_not.mpr hd) h
  rw [← List.cons_append, ← List.cons_append, ← hy, ← hz] at h
  obtain ⟨hsize, h⟩ := append_cons_inj (hdigits _) (hdigits _) (by decide) (by decide) h
  have habs := paddedDigits_inj.mp (String.toList_inj.mp hsize)
  refine ⟨?_, (List.cons.inj h).2⟩
  simp only [yearSign] at hsign
  split_ifs at hsign <;> simp at hsign <;> omega

/-- The text of a date says which date it is and where the rest begins. -/
theorem eq_of_text_append {a b : Date} {us vs : List Char}
    (h : a.text.toList ++ us = b.text.toList ++ vs) : a = b ∧ us = vs := by
  obtain ⟨-, -, -, hmonth, -, -⟩ := a.isDate
  obtain ⟨-, -, -, hmonth', -, -⟩ := b.isDate
  have hday := a.day_le
  have hday' := b.day_le
  simp only [toList_text, List.append_assoc, List.cons_append] at h
  obtain ⟨hyear, hrest⟩ := eq_of_yearText_append h
  simp only [append_eq_append_iff, length_lastDigits, List.cons.injEq, true_and] at hrest
  rw [lastDigits_inj (by omega) (by omega), lastDigits_inj (by omega) (by omega)] at hrest
  obtain ⟨hmonths, hdays, htail⟩ := hrest
  refine ⟨?_, htail⟩
  obtain ⟨_, _, _, _⟩ := a
  obtain ⟨_, _, _, _⟩ := b
  simp_all only

end Date

/-! ### Offsets -/

namespace Offset

theorem toList_hourMinuteText {minutes : Nat} (h : minutes < 6000) :
    (hourMinuteText minutes).toList =
      lastDigits 2 (minutes / 60) ++ ':' :: lastDigits 2 (minutes % 60) := by
  have hcolon : ":".toList = [':'] := rfl
  rw [hourMinuteText, String.toList_append, String.toList_append, hcolon,
    toList_paddedDigits (by decide) (by omega), toList_paddedDigits (by decide) (by omega),
    List.append_assoc, List.singleton_append]

/-- The character of the sign. -/
def signChar (o : Offset) : Char := if o.seconds < 0 then '-' else '+'

theorem toList_sign (o : Offset) : o.sign.toList = [o.signChar] := by
  rw [sign, signChar]
  split_ifs <;> rfl

theorem signChar_inj {a b : Offset} :
    a.signChar = b.signChar ↔ (a.seconds < 0 ↔ b.seconds < 0) := by
  rw [signChar, signChar]
  by_cases ha : a.seconds < 0 <;> by_cases hb : b.seconds < 0 <;> simp [ha, hb]

/-- The seconds behind hours and minutes. -/
def secondText (o : Offset) : List Char :=
  if o.seconds.natAbs % 60 = 0 then [] else ':' :: lastDigits 2 (o.seconds.natAbs % 60)

theorem secondText_inj {a b : Offset} :
    a.secondText = b.secondText ↔ a.seconds.natAbs % 60 = b.seconds.natAbs % 60 := by
  rw [secondText, secondText]
  split_ifs with ha hb hb
  · simp [ha, hb]
  · simp [ha, Ne.symm hb]
  · simp [hb, ha]
  · rw [List.cons.injEq, eq_self, true_and, lastDigits_inj (by omega) (by omega)]

theorem toList_text (o : Offset) :
    o.text.toList = o.signChar :: (lastDigits 2 (o.seconds.natAbs / 60 / 60) ++
      ':' :: (lastDigits 2 (o.seconds.natAbs / 60 % 60) ++ o.secondText)) := by
  have hlt := o.natAbs_lt
  rw [secondsPerDay] at hlt
  have hseconds : (if o.seconds.natAbs % 60 = 0 then ""
      else ":" ++ paddedDigits 2 (o.seconds.natAbs % 60)).toList = o.secondText := by
    rw [secondText]
    split_ifs
    · rfl
    · rw [String.toList_append, toList_paddedDigits (by decide) (by omega)]
      rfl
  rw [text]
  simp only [String.toList_append, toList_sign, hseconds]
  rw [toList_hourMinuteText (by omega)]
  simp only [List.append_assoc, List.cons_append, List.nil_append]

/-- The text of an offset says which offset it is. -/
theorem text_inj {a b : Offset} : a.text.toList = b.text.toList ↔ a = b := by
  refine ⟨fun h => ?_, fun h => h ▸ rfl⟩
  have ha := a.natAbs_lt
  have hb := b.natAbs_lt
  rw [secondsPerDay] at ha hb
  simp only [toList_text, append_eq_append_iff, length_lastDigits, List.cons.injEq, true_and] at h
  rw [signChar_inj, secondText_inj, lastDigits_inj (by omega) (by omega),
    lastDigits_inj (by omega) (by omega)] at h
  have hseconds : a.seconds = b.seconds := by omega
  obtain ⟨_, _⟩ := a
  obtain ⟨_, _⟩ := b
  simp_all only

/-- The sign and the minutes of an offset, the seconds rounded. -/
def shownMinutes (o : Offset) : Bool × Nat :=
  (decide (o.seconds < 0), (o.seconds.natAbs + 30) / 60)

theorem toList_minuteText (o : Offset) :
    o.minuteText.toList = o.signChar :: (lastDigits 2 (o.shownMinutes.2 / 60) ++
      ':' :: lastDigits 2 (o.shownMinutes.2 % 60)) := by
  have hlt := o.natAbs_lt
  rw [secondsPerDay] at hlt
  rw [minuteText, String.toList_append, toList_sign, toList_hourMinuteText (by omega),
    List.singleton_append, shownMinutes]

/-- The text of an offset to the minute says its sign and its minutes. -/
theorem minuteText_inj {a b : Offset} :
    a.minuteText.toList = b.minuteText.toList ↔ a.shownMinutes = b.shownMinutes := by
  have ha := a.natAbs_lt
  have hb := b.natAbs_lt
  rw [secondsPerDay] at ha hb
  simp only [toList_minuteText, append_eq_append_iff, length_lastDigits, List.cons.injEq, true_and]
  rw [signChar_inj, lastDigits_inj, lastDigits_inj]
  all_goals simp only [shownMinutes, Prod.mk.injEq, decide_eq_decide]
  all_goals omega

end Offset

end SqlClient
