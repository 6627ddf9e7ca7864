import Mathlib.Tactic.Common
import SqlClient.Interval
import SqlClient.Proofs.Except

/-!
# Lengths as intervals

A period and a duration that have been turned into an interval come back with the length they had.
An interval of months is a period unless one of its fields does not fit under its sign, and an
interval of nanoseconds is a duration unless it is too long.
-/

namespace SqlClient

theorem int64?_eq_some {n : Int} {m : Int64} (h : m.toInt = n) : int64? n = some m := by
  rw [← h, int64?_toInt]

theorem toInt_of_checkedNeg_eq_none {n : Int64} (h : checkedNeg n = none) :
    n.toInt = -9223372036854775808 := by
  have hlo := n.le_toInt
  have hhi := n.toInt_lt
  rw [checkedNeg, int64?] at h
  split_ifs at h with hfit
  omega

theorem eq_zero_iff_toInt {n : Int64} : n = 0 ↔ n.toInt = 0 := by
  rw [← Int64.toInt_inj]
  rfl

theorem toInt_div_twelve {n : Int64} (h : 0 ≤ n.toInt) : (n / 12).toInt = n.toInt / 12 := by
  rw [Int64.toInt_div_of_ne_right _ _ (by decide), Int.tdiv_eq_ediv_of_nonneg h]
  rfl

theorem toInt_mod_twelve {n : Int64} (h : 0 ≤ n.toInt) : (n % 12).toInt = n.toInt % 12 := by
  rw [Int64.toInt_mod, Int.tmod_eq_emod_of_nonneg h]
  rfl

/-- The fields of a year or month interval that the sign of a period goes to. -/
def Interval.periodFields (i : Interval) : List Int64 :=
  match i.qualifier with
  | .year | .month => [i.leading]
  | .yearToMonth => [i.leading, i.remaining]
  | _ => []

namespace Period

/-- The months of a period are known exactly when its years, and all in all, fit 64 bits. -/
theorem totalMonths?_eq_some {p : Period} {total : Int64} :
    p.totalMonths? = some total ↔ (∃ m : Int64, m.toInt = p.years.toInt * 12) ∧
      total.toInt = p.years.toInt * 12 + p.months.toInt := by
  have htwelve : (12 : Int64).toInt = 12 := by decide
  rw [totalMonths?, Option.bind_eq_bind, Option.bind_eq_some_iff, checkedMul, htwelve]
  constructor
  · rintro ⟨m, hm, htotal⟩
    have hm := toInt_of_int64? hm
    refine ⟨⟨m, hm⟩, ?_⟩
    rw [← hm]
    exact toInt_of_int64? htotal
  · rintro ⟨⟨m, hm⟩, htotal⟩
    refine ⟨m, int64?_eq_some hm, int64?_eq_some ?_⟩
    rw [hm, htotal]

/-- A field that is not negative can be given either sign. -/
theorem signed_eq_ok (negative : Bool) (field : Int64) (h : 0 ≤ field.toInt) :
    ∃ n, signed negative field = .ok n ∧
      n.toInt = if negative then -field.toInt else field.toInt := by
  cases negative with
  | false => exact ⟨field, rfl, rfl⟩
  | true =>
    have hmin := field.toInt_lt
    have hn : int64? (-field.toInt) = some (.ofInt (-field.toInt)) := by
      rw [int64?, if_pos (by omega)]
    refine ⟨.ofInt (-field.toInt), ?_, toInt_of_int64? hn⟩
    simp only [signed, checkedNeg, hn, if_true]

/-- What an interval of a period says: the sign and the number of its months. -/
theorem toInterval_eq_ok {p : Period} {i : Interval} (h : p.toInterval = .ok i) :
    ∃ total size : Int64, p.totalMonths? = some total ∧ 0 ≤ size.toInt ∧
      (total.toInt = if total < 0 then -size.toInt else size.toInt) ∧
      i = if p.months = 0 then ⟨.year, decide (total < 0), size / 12, 0⟩
        else if p.years = 0 then ⟨.month, decide (total < 0), size, 0⟩
        else ⟨.yearToMonth, decide (total < 0), size / 12, size % 12⟩ := by
  have hzero : (0 : Int64).toInt = 0 := rfl
  cases htotal : p.totalMonths? with
  | none => simp [toInterval, htotal] at h
  | some total =>
    by_cases hneg : total < 0
    · cases hsize : checkedNeg total with
      | none => simp [toInterval, htotal, hneg, hsize] at h
      | some size =>
        have htoInt := toInt_of_int64? hsize
        have hlt := Int64.lt_iff_toInt_lt.mp hneg
        refine ⟨total, size, rfl, by omega, ?_, ?_⟩
        · rw [if_pos hneg]
          omega
        · simpa [toInterval, htotal, hneg, hsize] using h.symm
    · have hle := Int64.le_iff_toInt_le.mp (Int64.not_lt.mp hneg)
      refine ⟨total, total, rfl, by omega, (if_neg hneg).symm, ?_⟩
      simpa [toInterval, htotal, hneg] using h.symm

/-- The years of a period fit if they are between nothing and all of a length that fits. -/
theorem totalMonths?_of_le {p : Period} {total : Int64}
    (htotal : total.toInt = p.years.toInt * 12 + p.months.toInt)
    (hyears : (p.years.toInt * 12).natAbs ≤ total.toInt.natAbs) : p.totalMonths? = some total := by
  have hlo := total.le_toInt
  have hhi := total.toInt_lt
  rw [totalMonths?_eq_some]
  exact ⟨⟨.ofInt (p.years.toInt * 12), Int64.toInt_ofInt_of_le (by omega) (by omega)⟩, htotal⟩

/-- A period comes back with as many months as it had. -/
theorem ofInterval_toInterval {p : Period} {i : Interval} (h : p.toInterval = .ok i) :
    ∃ q, ofInterval i = .ok q ∧ q.totalMonths? = p.totalMonths? := by
  obtain ⟨total, size, htotal, hsize, hsign, rfl⟩ := toInterval_eq_ok h
  obtain ⟨-, hmonths⟩ := totalMonths?_eq_some.mp htotal
  have hzero : (0 : Int64).toInt = 0 := rfl
  have hyears := toInt_div_twelve hsize
  have hrest := toInt_mod_twelve hsize
  obtain ⟨y, hy, hyval⟩ := signed_eq_ok (decide (total < 0)) (size / 12) (by omega)
  obtain ⟨r, hr, hrval⟩ := signed_eq_ok (decide (total < 0)) (size % 12) (by omega)
  obtain ⟨m, hm, hmval⟩ := signed_eq_ok (decide (total < 0)) size hsize
  simp only [decide_eq_true_eq] at hyval hrval hmval
  rw [htotal]
  split_ifs with hnoMonths hnoYears
  · refine ⟨⟨y, 0⟩, by rw [ofInterval, hy]; rfl, totalMonths?_of_le ?_ ?_⟩
    all_goals
      have hnone : p.months.toInt = 0 := congrArg Int64.toInt hnoMonths
      split_ifs at hsign hyval <;> simp only [hzero] <;> omega
  · refine ⟨⟨0, m⟩, by rw [ofInterval, hm]; rfl, totalMonths?_of_le ?_ ?_⟩
    all_goals
      split_ifs at hsign hmval <;> simp only [hzero] <;> omega
  · refine ⟨⟨y, r⟩, by rw [ofInterval, hy, hr]; rfl, totalMonths?_of_le ?_ ?_⟩
    all_goals
      split_ifs at hsign hyval hrval <;> simp only <;> omega

theorem signed_eq_error {field : Int64} (h : checkedNeg field = none) :
    signed true field = .error (.numericOutOfRange (toString field.toInt)) := by
  rw [signed, if_pos rfl, h]

/-- A field that does not fit under its sign is the one that is told of. -/
theorem ofInterval_eq_error {i : Interval} (hneg : i.negative = true) {field : Int64}
    (hmem : field ∈ i.periodFields) (h : checkedNeg field = none) :
    ofInterval i = .error (.numericOutOfRange (toString field.toInt)) := by
  obtain ⟨qualifier, negative, leading, remaining⟩ := i
  obtain rfl : negative = true := hneg
  cases qualifier with
  | year | month =>
    obtain rfl := List.mem_singleton.mp hmem
    simp only [ofInterval, signed_eq_error h, bind, Except.bind]
  | yearToMonth =>
    cases hlead : checkedNeg leading with
    | none =>
      -- there is only one number that has no negation
      have hsame : leading.toInt = field.toInt := by
        rw [toInt_of_checkedNeg_eq_none hlead, toInt_of_checkedNeg_eq_none h]
      simp only [ofInterval, signed_eq_error hlead, bind, Except.bind, hsame]
    | some n =>
      obtain rfl : field = remaining := by
        rcases List.mem_cons.mp hmem with rfl | hmem
        · rw [hlead] at h
          cases h
        · exact List.mem_singleton.mp hmem
      have hsigned : signed true leading = .ok n := by rw [signed, if_pos rfl, hlead]
      simp only [ofInterval, hsigned, signed_eq_error h, bind, Except.bind]
  | _ => cases hmem

theorem signed_cases (negative : Bool) (field : Int64) :
    (∃ n, signed negative field = .ok n) ∨ negative = true ∧ checkedNeg field = none := by
  cases negative with
  | false => exact .inl ⟨field, rfl⟩
  | true =>
    cases h : checkedNeg field with
    | none => exact .inr ⟨rfl, rfl⟩
    | some n => exact .inl ⟨n, by rw [signed, if_pos rfl, h]⟩

/-- A year or month interval is a period unless a field does not fit under its sign. -/
theorem ofInterval_cases {i : Interval} (h : i.qualifier.isYearMonth = true) :
    (∃ p, ofInterval i = .ok p) ∨
      i.negative = true ∧ ∃ field ∈ i.periodFields, checkedNeg field = none := by
  obtain ⟨qualifier, negative, leading, remaining⟩ := i
  rcases signed_cases negative leading with ⟨n, hlead⟩ | ⟨rfl, hlead⟩
  · cases qualifier with
    | year => exact .inl ⟨⟨n, 0⟩, by simp only [ofInterval, hlead]; rfl⟩
    | month => exact .inl ⟨⟨0, n⟩, by simp only [ofInterval, hlead]; rfl⟩
    | yearToMonth =>
      rcases signed_cases negative remaining with ⟨m, hrest⟩ | ⟨rfl, hrest⟩
      · exact .inl ⟨⟨n, m⟩, by simp only [ofInterval, hlead, hrest]; rfl⟩
      · exact .inr ⟨rfl, remaining, by simp [Interval.periodFields], hrest⟩
    | _ => cases h
  · refine .inr ⟨rfl, leading, ?_, hlead⟩
    cases qualifier with
    | year | month | yearToMonth => simp [Interval.periodFields]
    | _ => cases h

theorem isYearMonth_toInterval {p : Period} {i : Interval} (h : p.toInterval = .ok i) :
    i.qualifier.isYearMonth = true := by
  obtain ⟨total, size, -, -, -, rfl⟩ := toInterval_eq_ok h
  split_ifs <;> rfl

end Period

/-! ### Lengths in nanoseconds -/

theorem nanosPerSecond_eq : nanosPerSecond = 1000000000 := rfl

theorem nanosPerMinute_eq : nanosPerMinute = 60000000000 := rfl

theorem nanosPerHour_eq : nanosPerHour = 3600000000000 := rfl

theorem nanosPerDay_eq : nanosPerDay = 86400000000000 := rfl

/-- The definition, as an equation of functions: applied to a number, the kernel would look into the
test of the range and count down from its bounds. -/
theorem Interval.daySecond_eq : Interval.daySecond = fun nanos =>
    (int64? (nanos.natAbs / nanosPerDay)).elim
      (.error (.numericOutOfRange "interval day count"))
      fun days =>
        .ok ⟨.dayToSecond, decide (nanos < 0), days, .ofNat (nanos.natAbs % nanosPerDay)⟩ := by
  delta Interval.daySecond
  funext nanos
  generalize int64? (nanos.natAbs / nanosPerDay) = days
  cases days <;> rfl

/-- Day and time intervals have a length. -/
theorem Interval.toNanos_eq_ok {i : Interval} (h : i.qualifier.isYearMonth = false) :
    ∃ nanos, i.toNanos = .ok nanos := by
  obtain ⟨qualifier, negative, leading, remaining⟩ := i
  cases qualifier with
  | year | month | yearToMonth => cases h
  | _ => exact ⟨_, rfl⟩

/-- What an interval of days and nanoseconds says: the sign, the days and the nanoseconds below a
day. -/
theorem Interval.daySecond_eq_ok {nanos : Int} {i : Interval} (h : daySecond nanos = .ok i) :
    i.qualifier = .dayToSecond ∧ i.negative = decide (nanos < 0) ∧
      i.leading.toInt = nanos.natAbs / nanosPerDay ∧
      i.remaining.toInt = nanos.natAbs % nanosPerDay := by
  have hlt : nanos.natAbs % nanosPerDay < 2 ^ 63 := by
    rw [nanosPerDay_eq]
    omega
  rw [daySecond_eq] at h
  beta_reduce at h
  cases hdays : int64? (nanos.natAbs / nanosPerDay) with
  | none =>
    rw [hdays] at h
    cases h
  | some days =>
    rw [hdays] at h
    obtain rfl := Except.ok.inj h
    refine ⟨rfl, rfl, toInt_of_int64? hdays, ?_⟩
    rw [Int64.toInt_ofNat_of_lt hlt, Int.natCast_emod]

/-- An interval that was made for a length has it. -/
theorem Interval.toNanos_of_daySecond {nanos : Int} {i : Interval} (h : daySecond nanos = .ok i) :
    i.toNanos = .ok nanos := by
  obtain ⟨hqualifier, hnegative, hleading, hremaining⟩ := daySecond_eq_ok h
  have hlength : i.leading.toInt * nanosPerDay + i.remaining.toInt = nanos.natAbs := by
    rw [hleading, hremaining]
    exact Int.ediv_mul_add_emod _ _
  simp only [toNanos, magnitudeNanos?, hqualifier, hnegative, hlength, decide_eq_true_eq]
  split_ifs with hneg
  · rw [Int.ofNat_natAbs_of_nonpos (Int.le_of_lt hneg), Int.neg_neg]
  · rw [Int.natAbs_of_nonneg (Int.not_lt.mp hneg)]

namespace Duration

/-- The whole seconds before a length and the nanoseconds after them make the duration of this
length. Where the seconds do not fit 64 bits, there is none. -/
theorem ofParts?_eq (nanos : Int) :
    (do ofParts? (← int64? (nanos / nanosPerSecond)) (nanos % nanosPerSecond).toNat) =
      ofNanos? nanos := by
  have hmax : maxDurationNanos = 9223372036854775807000000 := rfl
  have hless : (nanos % nanosPerSecond).toNat < nanosPerSecond := by
    rw [nanosPerSecond_eq]
    omega
  cases hseconds : int64? (nanos / nanosPerSecond) with
  | some seconds =>
    have hsum : seconds.toInt * nanosPerSecond + (nanos % nanosPerSecond).toNat = nanos := by
      rw [toInt_of_int64? hseconds, nanosPerSecond_eq]
      omega
    rw [Option.bind_eq_bind, Option.bind_some, ofParts?, if_pos hless, hsum]
  | none =>
    have hnone : ofNanos? nanos = none := by
      rw [int64?, nanosPerSecond_eq] at hseconds
      split_ifs at hseconds with hfits
      rw [ofNanos?, dif_neg]
      rw [hmax]
      omega
    rw [hnone]
    rfl

theorem ofInterval_eq {i : Interval} {nanos : Int} (h : i.toNanos = .ok nanos) :
    ofInterval i = (ofNanos? nanos).elim (.error (.numericOutOfRange (toString nanos))) .ok := by
  rw [ofInterval, h]
  simp only [bind, Except.bind]
  have hparts := ofParts?_eq nanos
  rw [Option.bind_eq_bind] at hparts
  rw [hparts]
  cases ofNanos? nanos <;> rfl

/-- Seconds cut off towards zero and what is left beside them are the whole length. -/
theorem toInterval_eq (d : Duration) : d.toInterval = Interval.daySecond d.nanos := by
  rw [toInterval, wholeSeconds, subsecondNanos, Int.tdiv_mul_add_tmod]

/-- What an interval of a duration says: the sign, the days and the nanoseconds below a day. -/
theorem toInterval_eq_ok {d : Duration} {i : Interval} (h : d.toInterval = .ok i) :
    i.qualifier = .dayToSecond ∧ i.negative = decide (d.nanos < 0) ∧
      i.leading.toInt = d.nanos.natAbs / nanosPerDay ∧
      i.remaining.toInt = d.nanos.natAbs % nanosPerDay := by
  rw [toInterval_eq] at h
  exact Interval.daySecond_eq_ok h

/-- A duration comes back as it was. -/
theorem ofInterval_toInterval {d : Duration} {i : Interval} (h : d.toInterval = .ok i) :
    ofInterval i = .ok d := by
  rw [toInterval_eq] at h
  have hd : ofNanos? d.nanos = some d := dif_pos d.natAbs_le
  rw [ofInterval_eq (Interval.toNanos_of_daySecond h), hd, Option.elim_some]

end Duration

end SqlClient
