import SqlClient.Codec.Registry
import SqlClient.Proofs.Months

/-!
# Periods as intervals

A period is written as an interval of the same number of months: a sign, years and fewer than twelve
months. What comes back has this number of months too; it is the same period if that divided its
months in this way, and otherwise one that does.
-/

namespace SqlClient

/-- What does not fit under the other sign is the least number of 64 bits. -/
theorem eq_minValue_of_checkedNeg {n : Int64} (h : checkedNeg n = none) : n = Int64.minValue := by
  rw [← Int64.toInt_inj, toInt_of_checkedNeg_eq_none h]
  decide

theorem toString_minValue : toString Int64.minValue.toInt = "-9223372036854775808" := by decide

/-- A year or month interval with its sign apart from its fields, and fewer months than make a
year besides its years. -/
structure Interval.Normal (i : Interval) : Prop where
  isYearMonth : i.qualifier.isYearMonth = true
  leading_nonneg : 0 ≤ i.leading.toInt
  remaining_nonneg : 0 ≤ i.remaining.toInt
  remaining_le : i.remaining.toInt ≤ 11

/-- If all months fit without a sign, so do those of the years, which are no more. -/
theorem Interval.Normal.not_oversteps {i : Interval} (h : i.Normal)
    (hfits : FitsInt64 i.monthMagnitude) : ¬ i.Oversteps := by
  rintro ⟨hboth, hstep⟩
  have hleading := h.leading_nonneg
  have hremaining := h.remaining_nonneg
  have hmagnitude : i.monthMagnitude = i.leading.toInt * 12 + i.remaining.toInt := by
    rw [Interval.monthMagnitude, hboth]
  rw [hmagnitude, FitsInt64] at hfits
  rcases hstep with hyears | ⟨-, hsum⟩
  · rw [FitsInt64] at hyears
    omega
  · omega

/-- The period has years or months alone, or years and fewer than twelve months of one sign. -/
def Period.Balanced (p : Period) : Prop :=
  p.years = 0 ∨ p.months = 0 ∨
    (p.years.toInt < 0 ↔ p.months.toInt < 0) ∧ p.months.toInt.natAbs < 12

namespace Period

variable {p q : Period} {i : Interval}

/-- How a period is refused. -/
def refusal (p : Period) : EngineError :=
  .numericOutOfRange (toString p.years.toInt ++ " years " ++ toString p.months.toInt ++ " months")

/-- One number of 64 bits alone has no magnitude. -/
theorem magnitude_eq_none_iff {total : Int64} :
    (if total < 0 then checkedNeg total else some total) = none ↔ total = Int64.minValue := by
  constructor
  · intro h
    split_ifs at h with hneg
    exact eq_minValue_of_checkedNeg h
  · rintro rfl
    decide

/-- A period is refused if its months are not known, or have no magnitude. -/
theorem toInterval_eq_error_iff :
    p.toInterval = .error p.refusal ↔
      p.totalMonths? = none ∨ p.totalMonths? = some Int64.minValue := by
  cases htotal : p.totalMonths? with
  | none => simp [toInterval, htotal, refusal]
  | some total =>
    rw [Option.some_inj, ← magnitude_eq_none_iff]
    by_cases hneg : total < 0
    · rw [if_pos hneg]
      cases hsize : checkedNeg total with
      | none => simp [toInterval, htotal, hneg, hsize, refusal]
      | some size => simp [toInterval, htotal, hneg, hsize]
    · simp [toInterval, htotal, hneg]

theorem toInterval_cases (p : Period) :
    (∃ i, p.toInterval = .ok i) ∨ p.toInterval = .error p.refusal := by
  rw [toInterval]
  split
  · exact .inl ⟨_, rfl⟩
  · exact .inr rfl

/-- An interval that a period is written as has the months of the period, and says its years and
months where they are balanced. -/
theorem toInterval_normal {p : Period} {i : Interval} (h : p.toInterval = .ok i) :
    ∃ total, p.totalMonths? = some total ∧ i.Normal ∧ i.negative = decide (total < 0) ∧
      i.monthCount = total.toInt ∧ FitsInt64 i.monthMagnitude ∧
      ((p.years.toInt, p.months.toInt) = i.yearsAndMonths ↔ p.Balanced) := by
  obtain ⟨total, size, htotal, hsize, hsign, rfl⟩ := toInterval_eq_ok h
  have hcount := (totalMonths?_eq_some_iff.mp htotal).1
  have hfits := fitsInt64_toInt size
  have hzero : (0 : Int64).toInt = 0 := rfl
  rw [monthCount] at hcount
  rw [FitsInt64] at hfits
  refine ⟨total, htotal, ?_⟩
  simp only [Balanced, eq_zero_iff_toInt]
  -- every field is the size, or what twelve makes of it, or nothing
  split_ifs with hnoMonths hnoYears
  all_goals
    refine ⟨⟨rfl, ?_, ?_, ?_⟩, rfl, ?_, ?_, ?_⟩
    all_goals
      simp only [Interval.monthCount, Interval.monthMagnitude, Interval.yearsAndMonths, underSign,
        toInt_div_twelve hsize, toInt_mod_twelve hsize, FitsInt64, decide_eq_true_eq,
        Prod.mk.injEq, hzero]
    all_goals split_ifs at hsign ⊢ <;> omega

theorem eq_iff_toInt {p q : Period} :
    q = p ↔ (p.years.toInt, p.months.toInt) = (q.years.toInt, q.months.toInt) := by
  obtain ⟨years, months⟩ := p
  obtain ⟨years', months'⟩ := q
  simp only [Period.mk.injEq, Prod.mk.injEq, Int64.toInt_inj]
  exact and_congr eq_comm eq_comm

end Period

namespace Registry

variable {r : Registry} {session : SessionSettings} {i : Interval}

theorem decodeBy_period {q : Period} (h : Period.ofInterval i = .ok q) :
    r.decodeBy .period session (.interval i) = .ok (some (.period q)) :=
  congrArg (fun read => (Codec.access .period read).map some) h

theorem decodeBy_period_eq_error {e : EngineError} (h : Period.ofInterval i = .error e) :
    r.decodeBy .period session (.interval i) = .error (.engine e) :=
  congrArg (fun read => (Codec.access .period read).map some) h

/-- A period that is refused has no known months, or months without a magnitude. -/
theorem encodeBy_period_eq_error_iff {p : Period} :
    r.encodeBy .period (.period p) = .error (.engine p.refusal) ↔
      p.totalMonths? = none ∨ p.totalMonths? = some Int64.minValue := by
  rw [← Period.toInterval_eq_error_iff]
  change Codec.engineResult .interval p.toInterval = _ ↔ _
  cases p.toInterval with
  | ok i => exact ⟨nofun, nofun⟩
  | error e => simp [Codec.engineResult]

/-- A period whose months have a magnitude is written, and comes back with as many months. -/
theorem exists_encodeBy_period {p : Period} {total : Int64} (htotal : p.totalMonths? = some total)
    (hne : total ≠ Int64.minValue) : ∃ (i : Interval) (q : Period),
      r.encodeBy .period (.period p) = .ok (.interval i) ∧ i.Normal ∧
        (i.negative = true ↔ total < 0) ∧ i.monthCount = p.monthCount ∧ i.toMonths = .ok total ∧
        r.decodeBy .period session (.interval i) = .ok (some (.period q)) ∧
        q.totalMonths? = some total ∧ (q = p ↔ p.Balanced) := by
  rcases p.toInterval_cases with ⟨i, hi⟩ | herror
  · obtain ⟨total', htotal', hnormal, hnegative, hcount, hfits, hfields⟩ :=
      Period.toInterval_normal hi
    obtain rfl : total' = total := Option.some.inj (htotal'.symm.trans htotal)
    obtain ⟨q, hq, hmonths⟩ := Period.ofInterval_toInterval hi
    refine ⟨i, q, congrArg (Codec.engineResult .interval) hi, hnormal, ?_, ?_, ?_,
      decodeBy_period hq, hmonths.trans htotal, ?_⟩
    · rw [hnegative, decide_eq_true_eq]
    · rw [hcount, (Period.totalMonths?_eq_some_iff.mp htotal).1]
    · rw [Interval.toMonths_eq_ok_iff hnormal.isYearMonth]
      exact ⟨hcount.symm, hnormal.not_oversteps hfits⟩
    · rw [Period.eq_iff_toInt, (Period.ofInterval_eq_ok_iff.mp hq).2, hfields]
  · rcases Period.toInterval_eq_error_iff.mp herror with hnone | hmin
    · rw [hnone] at htotal
      cases htotal
    · exact absurd (Option.some.inj (htotal.symm.trans hmin)) hne

/-- A year or month interval is read as what it says, unless there is no such number. -/
theorem decodeBy_period_cases (hi : i.qualifier.isYearMonth = true) :
    (∃ q : Period, r.decodeBy .period session (.interval i) = .ok (some (.period q)) ∧
      (q.years.toInt, q.months.toInt) = i.yearsAndMonths) ∨
    i.negative = true ∧ Int64.minValue ∈ i.periodFields ∧
      r.decodeBy .period session (.interval i) =
        .error (.engine (.numericOutOfRange "-9223372036854775808")) := by
  rcases Period.ofInterval_cases hi with ⟨q, hq⟩ | ⟨hneg, field, hmem, hfield⟩
  · exact .inl ⟨q, decodeBy_period hq, (Period.ofInterval_eq_ok_iff.mp hq).2⟩
  · obtain rfl := eq_minValue_of_checkedNeg hfield
    have herror := Period.ofInterval_eq_error hneg hmem hfield
    rw [toString_minValue] at herror
    exact .inr ⟨hneg, hmem, decodeBy_period_eq_error herror⟩

/-- What is neither a null nor a year or month interval is not converted. -/
theorem decodeBy_period_of_foreign {v : Value}
    (hv : ∀ i, v = .interval i → i.qualifier.isYearMonth = false) :
    r.decodeBy .period session v =
      if v.isNull then .ok none
      else .error (.engine (v.noConversion "INTERVAL YEAR TO MONTH")) := by
  cases v with
  | interval i =>
    obtain ⟨qualifier, negative, leading, remaining⟩ := i
    have hq := hv _ rfl
    cases qualifier with
    | year | month | yearToMonth => cases hq
    | _ => rfl
  | _ => rfl

/-- The period codec refuses a period if its months are not known or have no magnitude, and only
then. Otherwise it writes an interval in normal form that is negative if the period is and counts as
many months. This is read back as a period of as many months, which is the same one if and only if
it was balanced. Intervals of years or months are read as what they say, unless a negative one has
the least number of 64 bits in a field, which has no negation. Of other values and host values the
codec converts none. -/
theorem period_codec (r : Registry) (session : SessionSettings) :
    (∀ p : Period,
      let written := r.encodeBy .period (.period p)
      p.refusal.sqlState = "22003" ∧
      (written = .error (.engine p.refusal) ↔
        p.totalMonths? = none ∨ p.totalMonths? = some Int64.minValue) ∧
      ∀ total, p.totalMonths? = some total → total ≠ Int64.minValue →
        ∃ (i : Interval) (q : Period), written = .ok (.interval i) ∧ i.Normal ∧
          (i.negative = true ↔ total < 0) ∧ i.monthCount = p.monthCount ∧ i.toMonths = .ok total ∧
          r.decodeBy .period session (.interval i) = .ok (some (.period q)) ∧
          q.totalMonths? = some total ∧ (q = p ↔ p.Balanced)) ∧
    (∀ i : Interval, i.qualifier.isYearMonth = true →
      let read := r.decodeBy .period session (.interval i)
      (∃ q : Period, read = .ok (some (.period q)) ∧
        (q.years.toInt, q.months.toInt) = i.yearsAndMonths) ∨
      i.negative = true ∧ Int64.minValue ∈ i.periodFields ∧
        read = .error (.engine (.numericOutOfRange "-9223372036854775808"))) ∧
    (∀ v : Value, (∀ i, v = .interval i → i.qualifier.isYearMonth = false) →
      r.decodeBy .period session v =
        if v.isNull then .ok none
        else .error (.engine (v.noConversion "INTERVAL YEAR TO MONTH"))) ∧
    ∀ h : HostValue, h.type ≠ .period →
      r.encodeBy .period h = .error (.foreignValue "period" h.type) := by
  refine ⟨fun p => ⟨rfl, encodeBy_period_eq_error_iff, fun total htotal hne => ?_⟩,
    fun i hi => decodeBy_period_cases hi, fun v hv => decodeBy_period_of_foreign hv, fun h hh => ?_⟩
  · exact exists_encodeBy_period htotal hne
  · cases h with
    | period p => exact absurd rfl hh
    | _ => rfl

end Registry

end SqlClient
