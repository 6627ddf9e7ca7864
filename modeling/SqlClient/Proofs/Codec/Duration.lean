import SqlClient.Codec.Registry
import SqlClient.Proofs.Months

/-!
# Durations as intervals

An interval of days or less has a number of nanoseconds that 128 bits hold, whatever its fields and
its sign are, and no number on the way to it is too great. It is a duration if this number is in the
range of durations. A duration is written as an interval of days and nanoseconds of the same length.
-/

namespace SqlClient

/-! ### The number of nanoseconds -/

namespace Qualifier

/-- The nanoseconds in one of the leading field; years and months have none. -/
def leadingNanos : Qualifier → Int
  | .day | .dayToHour | .dayToMinute | .dayToSecond => nanosPerDay
  | .hour | .hourToMinute | .hourToSecond => nanosPerHour
  | .minute | .minuteToSecond => nanosPerMinute
  | .second => nanosPerSecond
  | .year | .month | .yearToMonth => 0

/-- The nanoseconds in one of the remaining part, which is measured in nanoseconds where the last
field is the second. -/
def remainingNanos : Qualifier → Int
  | .dayToHour => nanosPerHour
  | .dayToMinute | .hourToMinute => nanosPerMinute
  | .second | .dayToSecond | .hourToSecond | .minuteToSecond => 1
  | .day | .hour | .minute | .year | .month | .yearToMonth => 0

end Qualifier

/-- The number is one of the 128-bit integers. -/
def FitsInt128 (n : Int) : Prop :=
  -170141183460469231731687303715884105728 ≤ n ∧ n < 170141183460469231731687303715884105728

instance (n : Int) : Decidable (FitsInt128 n) := inferInstanceAs (Decidable (_ ∧ _))

/-- The number, if 128 bits hold it. -/
def int128? (n : Int) : Option Int := if FitsInt128 n then some n else none

namespace Interval

/-- The nanoseconds of a day or time interval before its sign, as many as there are. -/
def nanoMagnitude (i : Interval) : Int :=
  i.leading.toInt * i.qualifier.leadingNanos + i.remaining.toInt * i.qualifier.remainingNanos

/-- The nanoseconds of a day or time interval, as many as there are. -/
def nanoCount (i : Interval) : Int := underSign i.negative i.nanoMagnitude

/-- The nanoseconds of a day or time interval before its sign, where every product and sum on the
way to them has to fit 128 bits. -/
def wideMagnitude? (i : Interval) : Option Int :=
  let leading := i.leading.toInt
  let remaining := i.remaining.toInt
  match i.qualifier with
  | .day => int128? (leading * nanosPerDay)
  | .hour => int128? (leading * nanosPerHour)
  | .minute => int128? (leading * nanosPerMinute)
  | .second => do int128? ((← int128? (leading * nanosPerSecond)) + remaining)
  | .dayToHour => do
    int128? ((← int128? ((← int128? (leading * 24)) + remaining)) * nanosPerHour)
  | .dayToMinute => do
    let minutes ← int128? ((← int128? (leading * 24)) * 60)
    int128? ((← int128? (minutes + remaining)) * nanosPerMinute)
  | .dayToSecond => do int128? ((← int128? (leading * nanosPerDay)) + remaining)
  | .hourToMinute => do
    int128? ((← int128? ((← int128? (leading * 60)) + remaining)) * nanosPerMinute)
  | .hourToSecond => do int128? ((← int128? (leading * nanosPerHour)) + remaining)
  | .minuteToSecond => do int128? ((← int128? (leading * nanosPerMinute)) + remaining)
  | .year | .month | .yearToMonth => none

/-- The nanoseconds of a day or time interval, where their negation has to fit 128 bits too. -/
def wideNanos? (i : Interval) : Option Int := do
  let nanos ← i.wideMagnitude?
  if i.negative then int128? (-nanos) else some nanos

variable {i : Interval}

theorem int128?_eq {n : Int} (h : FitsInt128 n) : int128? n = some n := if_pos h

theorem wideMagnitude?_eq (i : Interval) : i.wideMagnitude? = i.magnitudeNanos? := by
  obtain ⟨qualifier, negative, leading, remaining⟩ := i
  have hleading := fitsInt64_toInt leading
  have hremaining := fitsInt64_toInt remaining
  rw [FitsInt64] at hleading hremaining
  cases qualifier with
  | year | month | yearToMonth => rfl
  | _ =>
    simp only [wideMagnitude?, magnitudeNanos?, nanosPerDay_eq, nanosPerHour_eq, nanosPerMinute_eq,
      nanosPerSecond_eq]
    simp (disch := (rw [FitsInt128]; omega)) only [int128?_eq, Option.bind_eq_bind,
      Option.bind_some]

/-- An interval measures its leading field and its remaining part in the units of its qualifier. -/
theorem magnitudeNanos?_eq (h : i.qualifier.isYearMonth = false) :
    i.magnitudeNanos? = some i.nanoMagnitude := by
  obtain ⟨qualifier, negative, leading, remaining⟩ := i
  cases qualifier with
  | year | month | yearToMonth => cases h
  | _ =>
    simp only [magnitudeNanos?, nanoMagnitude, Qualifier.leadingNanos, Qualifier.remainingNanos,
      nanosPerDay_eq, nanosPerHour_eq, nanosPerMinute_eq, nanosPerSecond_eq, Option.some_inj]
    omega

theorem toNanos_eq (h : i.qualifier.isYearMonth = false) : i.toNanos = .ok i.nanoCount := by
  rw [toNanos, magnitudeNanos?_eq h]
  rfl

/-- The units are no more than the nanoseconds of a day, and the fields have 64 bits. -/
theorem fitsInt128_neg_nanoMagnitude (i : Interval) : FitsInt128 (-i.nanoMagnitude) := by
  obtain ⟨qualifier, negative, leading, remaining⟩ := i
  have hleading := fitsInt64_toInt leading
  have hremaining := fitsInt64_toInt remaining
  rw [FitsInt64] at hleading hremaining
  cases qualifier
  all_goals
    simp only [FitsInt128, nanoMagnitude, Qualifier.leadingNanos, Qualifier.remainingNanos,
      nanosPerDay_eq, nanosPerHour_eq, nanosPerMinute_eq, nanosPerSecond_eq]
    omega

/-- In 128 bits the nanoseconds are as many as there are. -/
theorem wideNanos?_eq (h : i.qualifier.isYearMonth = false) : i.wideNanos? = some i.nanoCount := by
  rw [wideNanos?, wideMagnitude?_eq, magnitudeNanos?_eq h, Option.bind_eq_bind, Option.bind_some,
    int128?_eq i.fitsInt128_neg_nanoMagnitude, nanoCount, underSign]
  split_ifs <;> rfl

/-! ### Intervals of a length -/

/-- A length is made an interval as long as its days fit 64 bits. -/
theorem daySecond_cases (nanos : Int) :
    nanos.natAbs < 9223372036854775808 * nanosPerDay ∧ (∃ i, daySecond nanos = .ok i) ∨
      9223372036854775808 * nanosPerDay ≤ nanos.natAbs ∧
        daySecond nanos = .error (.numericOutOfRange "interval day count") := by
  rw [daySecond_eq]
  beta_reduce
  cases hdays : int64? (nanos.natAbs / nanosPerDay) with
  | some days =>
    have hfits := fitsInt64_toInt days
    rw [toInt_of_int64? hdays, FitsInt64, nanosPerDay_eq] at hfits
    rw [nanosPerDay_eq]
    exact .inl ⟨by omega, _, rfl⟩
  | none =>
    rw [int64?, nanosPerDay_eq] at hdays
    split_ifs at hdays with hfits
    rw [nanosPerDay_eq]
    exact .inr ⟨by omega, rfl⟩

end Interval

namespace Registry

variable {r : Registry} {session : SessionSettings} {i : Interval}

/-- A day or time interval is read as the duration of its length, if there is one. -/
theorem decodeBy_duration_eq (h : i.qualifier.isYearMonth = false) :
    r.decodeBy .duration session (.interval i) =
      (Duration.ofNanos? i.nanoCount).elim
        (.error (.engine (.numericOutOfRange (toString i.nanoCount))))
        fun d => .ok (some (.duration d)) := by
  change (Codec.access .duration (Duration.ofInterval i)).map some = _
  rw [Duration.ofInterval_eq (Interval.toNanos_eq h)]
  cases Duration.ofNanos? i.nanoCount <;> rfl

/-- A year or month interval has no number of nanoseconds. -/
theorem decodeBy_duration_of_isYearMonth (h : i.qualifier.isYearMonth = true) :
    r.decodeBy .duration session (.interval i) = .error (.engine (.dataConversion
      ("INTERVAL " ++ i.qualifier.name ++ " cannot be converted to a duration"))) := by
  obtain ⟨qualifier, negative, leading, remaining⟩ := i
  cases qualifier with
  | year | month | yearToMonth => rfl
  | _ => cases h

theorem encodeBy_duration_eq (d : Duration) : r.encodeBy .duration (.duration d) =
    Codec.engineResult .interval d.toInterval := by
  simp only [encodeBy, Codec.write]

/-- The longest duration has far fewer days than 64 bits hold, so every duration is written, as an
interval of its length that is read as it again. -/
theorem exists_encodeBy_duration (r : Registry) (session : SessionSettings) (d : Duration) : ∃ i,
    r.encodeBy .duration (.duration d) = .ok (.interval i) ∧ i.toNanos = .ok d.nanos ∧
      r.decodeBy .duration session (.interval i) = .ok (some (.duration d)) := by
  have hle := d.natAbs_le
  have hmax : maxDurationNanos < 9223372036854775808 * nanosPerDay := by decide
  rcases Interval.daySecond_cases d.nanos with ⟨-, i, hi⟩ | ⟨hlarge, -⟩
  · have hinterval : d.toInterval = .ok i := d.toInterval_eq.trans hi
    refine ⟨i, ?_, Interval.toNanos_of_daySecond hi, ?_⟩
    · rw [encodeBy_duration_eq, hinterval]
      rfl
    · exact congrArg (fun read => (Codec.access .duration read).map some)
        (Duration.ofInterval_toInterval hinterval)
  · omega

/-- The nanoseconds of a day or time interval are a 128-bit number, and so is every number on the
way to them. The interval is read as the duration of so many nanoseconds, which is written as an
interval of as many again, unless they are out of the range of durations: then it is refused for
that. A year or month interval is refused as one that is no length. Nanoseconds are made an
interval of days and nanoseconds if and only if the days fit 64 bits, with no sign in its fields,
less than a day besides the days, and the nanoseconds it was made for. Every duration is written
and comes back as it was. -/
theorem duration_codec (r : Registry) (session : SessionSettings) :
    (∀ i : Interval, i.qualifier.isYearMonth = false →
      let read := r.decodeBy .duration session (.interval i)
      let refusal := EngineError.numericOutOfRange (toString i.nanoCount)
      i.toNanos = .ok i.nanoCount ∧ i.wideNanos? = some i.nanoCount ∧
      (i.nanoCount.natAbs ≤ maxDurationNanos → ∃ (d : Duration) (j : Interval),
        read = .ok (some (.duration d)) ∧ d.nanos = i.nanoCount ∧
          r.encodeBy .duration (.duration d) = .ok (.interval j) ∧ j.toNanos = i.toNanos) ∧
      (maxDurationNanos < i.nanoCount.natAbs →
        read = .error (.engine refusal) ∧ refusal.sqlState = "22003")) ∧
    (∀ i : Interval, i.qualifier.isYearMonth = true →
      r.decodeBy .duration session (.interval i) = .error (.engine (.dataConversion
        ("INTERVAL " ++ i.qualifier.name ++ " cannot be converted to a duration")))) ∧
    (∀ nanos : Int,
      ((∃ i, Interval.daySecond nanos = .ok i) ↔
        nanos.natAbs < 9223372036854775808 * nanosPerDay) ∧
      ∀ i, Interval.daySecond nanos = .ok i → i.qualifier = .dayToSecond ∧
        0 ≤ i.leading.toInt ∧ 0 ≤ i.remaining.toInt ∧ i.remaining.toInt < nanosPerDay ∧
        i.toNanos = .ok nanos) ∧
    ∀ d : Duration, ∃ i, r.encodeBy .duration (.duration d) = .ok (.interval i) ∧
      i.toNanos = .ok d.nanos ∧
      r.decodeBy .duration session (.interval i) = .ok (some (.duration d)) := by
  refine ⟨fun i hi => ?_, fun i => decodeBy_duration_of_isYearMonth,
    fun nanos => ⟨?_, fun i hi => ?_⟩, exists_encodeBy_duration r session⟩
  · intro read refusal
    have hread : read = _ := decodeBy_duration_eq hi
    rw [Duration.ofNanos?] at hread
    refine ⟨Interval.toNanos_eq hi, Interval.wideNanos?_eq hi, fun hle => ?_, fun hlt => ⟨?_, rfl⟩⟩
    · rw [dif_pos hle] at hread
      obtain ⟨j, hj, hlength, -⟩ := exists_encodeBy_duration r session ⟨_, hle⟩
      exact ⟨_, j, hread, rfl, hj, hlength.trans (Interval.toNanos_eq hi).symm⟩
    · rw [dif_neg (Nat.not_le.mpr hlt)] at hread
      exact hread
  · rcases Interval.daySecond_cases nanos with ⟨hlt, hmade⟩ | ⟨hle, herror⟩
    · exact iff_of_true hmade hlt
    · rw [herror]
      exact iff_of_false (by rintro ⟨_, ⟨⟩⟩) (Nat.not_lt.mpr hle)
  · obtain ⟨hqualifier, -, hleading, hremaining⟩ := Interval.daySecond_eq_ok hi
    rw [hleading, hremaining, nanosPerDay_eq]
    exact ⟨hqualifier, by omega, by omega, by omega, Interval.toNanos_of_daySecond hi⟩

end Registry

end SqlClient
