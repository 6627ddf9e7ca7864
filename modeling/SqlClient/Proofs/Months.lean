import SqlClient.Proofs.Interval

/-!
# Counts of months

Periods and intervals of years and months have a number of months, however wide their fields are.
Where they tell a count of 64 bits, it is that number. They tell none where the number does not fit,
and neither where it fits and a number on the way to it does not.
-/

namespace SqlClient

/-- The number is one of the 64-bit integers. -/
def FitsInt64 (n : Int) : Prop := -9223372036854775808 ≤ n ∧ n < 9223372036854775808

instance (n : Int) : Decidable (FitsInt64 n) := inferInstanceAs (Decidable (_ ∧ _))

theorem fitsInt64_toInt (m : Int64) : FitsInt64 m.toInt := ⟨m.le_toInt, m.toInt_lt⟩

theorem fitsInt64_iff {n : Int} : FitsInt64 n ↔ ∃ m : Int64, m.toInt = n := by
  constructor
  · rintro ⟨hlo, hhi⟩
    exact ⟨.ofInt n, Int64.toInt_ofInt_of_le hlo hhi⟩
  · rintro ⟨m, rfl⟩
    exact fitsInt64_toInt m

theorem int64?_eq_some_iff {n : Int} {m : Int64} : int64? n = some m ↔ m.toInt = n :=
  ⟨toInt_of_int64?, int64?_eq_some⟩

/-- A number under a sign. -/
def underSign (negative : Bool) (n : Int) : Int := if negative then -n else n

theorem checkedSign_eq_some_iff {negative : Bool} {field n : Int64} :
    (if negative then checkedNeg field else some field) = some n ↔
      n.toInt = underSign negative field.toInt := by
  cases negative with
  | false => exact Option.some_inj.trans (Int64.toInt_inj.symm.trans eq_comm)
  | true => exact int64?_eq_some_iff

theorem signed_eq_ok_iff {negative : Bool} {field n : Int64} :
    Period.signed negative field = .ok n ↔ n.toInt = underSign negative field.toInt := by
  have hsigned : Period.signed negative field =
      (if negative then checkedNeg field else some field).elim
        (.error (.numericOutOfRange (toString field.toInt))) .ok := by
    rw [Period.signed]
    cases negative with
    | false => rfl
    | true => cases checkedNeg field <;> rfl
  rw [hsigned, elim_eq_ok, checkedSign_eq_some_iff]

/-! ### The numbers -/

/-- The months of a period, as many as there are. -/
def Period.monthCount (p : Period) : Int := p.years.toInt * 12 + p.months.toInt

namespace Interval

/-- The months of a year or month interval before its sign, as many as there are. -/
def monthMagnitude (i : Interval) : Int :=
  match i.qualifier with
  | .year => i.leading.toInt * 12
  | .month => i.leading.toInt
  | .yearToMonth => i.leading.toInt * 12 + i.remaining.toInt
  | _ => 0

/-- The months of a year or month interval, as many as there are. -/
def monthCount (i : Interval) : Int := underSign i.negative i.monthMagnitude

/-- The months are counted over a number that does not fit: those of the years alone, or those of
the whole interval before they get its sign. -/
def Oversteps (i : Interval) : Prop :=
  i.qualifier = .yearToMonth ∧
    (¬ FitsInt64 (i.leading.toInt * 12) ∨
      i.negative = true ∧ i.monthMagnitude = 9223372036854775808)

/-- The years and the months that an interval says, as many as there are. -/
def yearsAndMonths (i : Interval) : Int × Int :=
  match i.qualifier with
  | .year => (underSign i.negative i.leading.toInt, 0)
  | .month => (0, underSign i.negative i.leading.toInt)
  | .yearToMonth =>
    (underSign i.negative i.leading.toInt, underSign i.negative i.remaining.toInt)
  | _ => (0, 0)

theorem monthCount_eq (i : Interval) :
    i.monthCount = i.yearsAndMonths.1 * 12 + i.yearsAndMonths.2 := by
  obtain ⟨qualifier, negative, leading, remaining⟩ := i
  cases qualifier with
  | _ => cases negative <;> simp [monthCount, monthMagnitude, yearsAndMonths, underSign] <;> omega

end Interval

/-! ### The counts of periods -/

namespace Period

theorem totalMonths?_eq_some_iff {p : Period} {total : Int64} : p.totalMonths? = some total ↔
    total.toInt = p.monthCount ∧ FitsInt64 (p.years.toInt * 12) := by
  rw [totalMonths?_eq_some, fitsInt64_iff, And.comm, monthCount]

theorem totalMonths?_eq_none_iff {p : Period} : p.totalMonths? = none ↔
    ¬ FitsInt64 p.monthCount ∨ ¬ FitsInt64 (p.years.toInt * 12) := by
  rw [Option.eq_none_iff_forall_ne_some, ← not_and_or, fitsInt64_iff (n := p.monthCount)]
  simp only [ne_eq, totalMonths?_eq_some_iff]
  exact ⟨fun h ⟨⟨m, hm⟩, hyears⟩ => h m ⟨hm, hyears⟩, fun h m hm => h ⟨⟨m, hm.1⟩, hm.2⟩⟩

/-- What an interval says is taken over as it is. -/
theorem ofInterval_eq_ok_iff {i : Interval} {p : Period} : ofInterval i = .ok p ↔
    i.qualifier.isYearMonth = true ∧ (p.years.toInt, p.months.toInt) = i.yearsAndMonths := by
  have hzero : ∀ n : Int64, 0 = n ↔ n.toInt = 0 := fun _ => eq_comm.trans eq_zero_iff_toInt
  obtain ⟨qualifier, negative, leading, remaining⟩ := i
  obtain ⟨years, months⟩ := p
  cases qualifier with
  | year | yearToMonth =>
    simp [ofInterval, Interval.yearsAndMonths, bind_eq_ok, Qualifier.isYearMonth, pure, Except.pure,
      signed_eq_ok_iff, hzero]
  | month =>
    simp [ofInterval, Interval.yearsAndMonths, bind_eq_ok, Qualifier.isYearMonth, pure, Except.pure,
      signed_eq_ok_iff, hzero, And.comm]
  | _ => exact ⟨by rintro ⟨⟩, fun h => absurd h.1 Bool.false_ne_true⟩

theorem monthCount_of_ofInterval {i : Interval} {p : Period} (h : ofInterval i = .ok p) :
    p.monthCount = i.monthCount := by
  rw [i.monthCount_eq, ← (ofInterval_eq_ok_iff.mp h).2, monthCount]

end Period

/-! ### The counts of intervals -/

namespace Interval

variable {i : Interval} {m : Int64}

/-- The months before the sign are known where they fit, and those of the years alone do. -/
theorem magnitudeMonths?_eq_some_iff (h : i.qualifier.isYearMonth = true) :
    i.magnitudeMonths? = some m ↔ m.toInt = i.monthMagnitude ∧
      (i.qualifier = .yearToMonth → FitsInt64 (i.leading.toInt * 12)) := by
  obtain ⟨qualifier, negative, leading, remaining⟩ := i
  have htwelve : (12 : Int64).toInt = 12 := by decide
  cases qualifier with
  | year =>
    simp [magnitudeMonths?, monthMagnitude, checkedMul, htwelve, int64?_eq_some_iff]
  | month => simp [magnitudeMonths?, monthMagnitude, ← Int64.toInt_inj, eq_comm]
  | yearToMonth =>
    rw [magnitudeMonths?]
    simp only [Option.bind_eq_bind, Option.bind_eq_some_iff, checkedMul, checkedAdd, htwelve,
      int64?_eq_some_iff, monthMagnitude, fitsInt64_iff]
    constructor
    · rintro ⟨n, hn, hm⟩
      rw [← hn]
      exact ⟨hm, fun _ => ⟨n, rfl⟩⟩
    · rintro ⟨hm, hfits⟩
      obtain ⟨n, hn⟩ := hfits trivial
      exact ⟨n, hn, by rw [hn, hm]⟩
  | _ => cases h

/-- Where the months fit under their sign, they fit without it: 2^63 alone has only a negation, and
no number of years has as many months. -/
theorem fitsInt64_monthMagnitude (h : i.qualifier.isYearMonth = true)
    (hfits : FitsInt64 i.monthCount) (hsteps : ¬ i.Oversteps) : FitsInt64 i.monthMagnitude := by
  obtain ⟨qualifier, negative, leading, remaining⟩ := i
  have hleading := fitsInt64_toInt leading
  rw [FitsInt64, monthCount, underSign] at hfits
  cases qualifier with
  | month => exact hleading
  | year =>
    simp only [FitsInt64, monthMagnitude] at hfits ⊢
    split_ifs at hfits <;> omega
  | yearToMonth =>
    simp only [Oversteps, true_and, not_or, not_and] at hsteps
    rw [FitsInt64]
    split_ifs at hfits with hnegative
    · have hne := hsteps.2 hnegative
      omega
    · exact hfits
  | _ => cases h

/-- An interval tells its months or that they are too many. -/
theorem toMonths_eq (h : i.qualifier.isYearMonth = true) : i.toMonths =
    (i.magnitudeMonths?.bind fun m => if i.negative then checkedNeg m else some m).elim
      (.error (.numericOutOfRange "interval month count")) .ok := by
  rw [toMonths, if_pos h]
  cases i.magnitudeMonths?.bind fun m => if i.negative then checkedNeg m else some m <;> rfl

/-- The months of an interval are told where they fit, unless a number on the way to them does
not. -/
theorem toMonths_eq_ok_iff (h : i.qualifier.isYearMonth = true) :
    i.toMonths = .ok m ↔ m.toInt = i.monthCount ∧ ¬ i.Oversteps := by
  have hsteps : i.toMonths = .ok m ↔ ∃ size : Int64, i.magnitudeMonths? = some size ∧
      m.toInt = underSign i.negative size.toInt := by
    rw [toMonths_eq h, elim_eq_ok, Option.bind_eq_some_iff]
    simp only [checkedSign_eq_some_iff]
  have hm := fitsInt64_toInt m
  rw [hsteps]
  simp only [magnitudeMonths?_eq_some_iff h]
  constructor
  · rintro ⟨size, ⟨hsize, hyears⟩, hsign⟩
    have hfits := fitsInt64_toInt size
    rw [hsize] at hfits hsign
    refine ⟨hsign, fun ⟨hboth, hstep⟩ => ?_⟩
    rcases hstep with hstep | ⟨-, hsum⟩
    · exact hstep (hyears hboth)
    · exact absurd hfits.2 (by omega)
  · rintro ⟨hcount, hsteps⟩
    rw [hcount] at hm
    obtain ⟨size, hsize⟩ := fitsInt64_iff.mp (fitsInt64_monthMagnitude h hm hsteps)
    refine ⟨size, ⟨hsize, fun hboth => ?_⟩, by rw [hsize, hcount, monthCount]⟩
    exact Classical.not_not.mp fun hyears => hsteps ⟨hboth, .inl hyears⟩

theorem toMonths_eq_error {e : EngineError} (h : i.qualifier.isYearMonth = true)
    (herror : i.toMonths = .error e) :
    e = .numericOutOfRange "interval month count" ∧ e.sqlState = "22003" := by
  rw [toMonths_eq h] at herror
  cases hmonths : i.magnitudeMonths?.bind fun m => if i.negative then checkedNeg m else some m with
  | none =>
    rw [hmonths] at herror
    obtain rfl := Except.error.inj herror
    exact ⟨rfl, rfl⟩
  | some m =>
    rw [hmonths] at herror
    cases herror

theorem toOption_toMonths_eq_some_iff (h : i.qualifier.isYearMonth = true) :
    i.toMonths.toOption = some m ↔ m.toInt = i.monthCount ∧ ¬ i.Oversteps := by
  rw [← toMonths_eq_ok_iff h]
  cases i.toMonths with
  | error e => exact ⟨nofun, nofun⟩
  | ok n => exact ⟨fun h => congrArg _ (Option.some.inj h), fun h => congrArg _ (Except.ok.inj h)⟩

end Interval

/-! ### The counts compared -/

/-- The months of years fit whatever their sign is. -/
theorem fitsInt64_underSign_mul (negative : Bool) (years : Int) :
    FitsInt64 (underSign negative years * 12) ↔ FitsInt64 (years * 12) := by
  rw [FitsInt64, FitsInt64, underSign]
  split_ifs <;> omega

namespace Period

variable {i : Interval} {p : Period} {m : Int64}

/-- A period that says what an interval says tells as many months or, as that does, none, unless the
interval has 2^63 months before its sign. -/
theorem totalMonths?_eq_toMonths_iff (h : ofInterval i = .ok p) :
    p.totalMonths? = i.toMonths.toOption ↔
      ¬ (i.Oversteps ∧ FitsInt64 (i.leading.toInt * 12)) := by
  have hcount := monthCount_of_ofInterval h
  obtain ⟨hq, hfields⟩ := ofInterval_eq_ok_iff.mp h
  have hyears : i.qualifier = .yearToMonth →
      (FitsInt64 (p.years.toInt * 12) ↔ FitsInt64 (i.leading.toInt * 12)) := by
    intro hboth
    rw [Interval.yearsAndMonths, hboth] at hfields
    rw [(Prod.mk.inj hfields).1, fitsInt64_underSign_mul]
  constructor
  · rintro heq ⟨⟨hboth, hstep⟩, hleading⟩
    obtain ⟨hnegative, hmagnitude⟩ := hstep.resolve_left (Classical.not_not.mpr hleading)
    have hfits : FitsInt64 p.monthCount := by
      rw [hcount, Interval.monthCount, underSign, if_pos hnegative, hmagnitude, FitsInt64]
      omega
    obtain ⟨total, htotal⟩ := fitsInt64_iff.mp hfits
    rw [totalMonths?_eq_some_iff.mpr ⟨htotal, (hyears hboth).mpr hleading⟩] at heq
    have hsteps := ((Interval.toOption_toMonths_eq_some_iff hq).mp heq.symm).2
    exact hsteps ⟨hboth, .inr ⟨hnegative, hmagnitude⟩⟩
  · intro hnot
    refine Option.ext fun m => ?_
    rw [totalMonths?_eq_some_iff, Interval.toOption_toMonths_eq_some_iff hq, hcount]
    refine and_congr_right fun hm => ⟨fun hfits hsteps => ?_, fun hsteps => ?_⟩
    · exact hnot ⟨hsteps, (hyears hsteps.1).mp hfits⟩
    · rw [← hcount] at hm
      have htotal := fitsInt64_toInt m
      rw [hm, FitsInt64, monthCount] at htotal
      -- an interval of years alone or of months alone gives nothing to the other field
      cases hqualifier : i.qualifier with
      | yearToMonth =>
        exact (hyears hqualifier).mpr (Classical.not_not.mp fun hleading =>
          hsteps ⟨hqualifier, .inl hleading⟩)
      | year =>
        rw [Interval.yearsAndMonths, hqualifier] at hfields
        rw [(Prod.mk.inj hfields).2, Int.add_zero] at htotal
        exact htotal
      | month =>
        rw [Interval.yearsAndMonths, hqualifier] at hfields
        rw [(Prod.mk.inj hfields).1, FitsInt64]
        omega
      | _ =>
        rw [hqualifier] at hq
        cases hq

end Period

/-- Periods and intervals tell their number of months where it fits and no number on the way to it
is too great: that of the years alone or, for an interval, that of all months before they get their
sign. A period does so wherever its years and months are of one sign. A period that says what an
interval says has as many months, and both tell this or none does, unless the interval is negative
and would have 2^63 months without its sign. -/
theorem month_counts (p : Period) (i : Interval) :
    ((∀ total, p.totalMonths? = some total → total.toInt = p.monthCount) ∧
      (p.totalMonths? = none ↔
        ¬ FitsInt64 p.monthCount ∨ ¬ FitsInt64 (p.years.toInt * 12)) ∧
      (0 ≤ p.years.toInt ∧ 0 ≤ p.months.toInt ∨ p.years.toInt ≤ 0 ∧ p.months.toInt ≤ 0 →
        (p.totalMonths? = none ↔ ¬ FitsInt64 p.monthCount))) ∧
    (i.qualifier.isYearMonth = true →
      (∀ m, i.toMonths = .ok m → m.toInt = i.monthCount) ∧
      ((∃ m, i.toMonths = .ok m) ↔ FitsInt64 i.monthCount ∧ ¬ i.Oversteps) ∧
      ∀ e, i.toMonths = .error e →
        e = .numericOutOfRange "interval month count" ∧ e.sqlState = "22003") ∧
    (Period.ofInterval i = .ok p →
      p.monthCount = i.monthCount ∧
      (p.totalMonths? = i.toMonths.toOption ↔
        ¬ (i.Oversteps ∧ FitsInt64 (i.leading.toInt * 12)))) := by
  refine ⟨⟨fun total h => ?_, Period.totalMonths?_eq_none_iff, fun hsign => ?_⟩,
    fun h => ⟨fun m hm => ?_, ?_, fun e => Interval.toMonths_eq_error h⟩, fun h => ?_⟩
  · exact (Period.totalMonths?_eq_some_iff.mp h).1
  · rw [Period.totalMonths?_eq_none_iff]
    refine or_iff_left_of_imp fun hyears hcount => hyears ?_
    rw [FitsInt64, Period.monthCount] at hcount
    rw [FitsInt64]
    omega
  · exact ((Interval.toMonths_eq_ok_iff h).mp hm).1
  · simp only [Interval.toMonths_eq_ok_iff h, exists_and_right, ← fitsInt64_iff]
  · exact ⟨Period.monthCount_of_ofInterval h, Period.totalMonths?_eq_toMonths_iff h⟩

/-- A period of 2^63 - 1 months that tells none, as its years alone have more. An interval of -2^63
months that tells none, as there are 2^63 before the sign; the period that says the same tells
them. -/
theorem month_counts_overstepping :
    let p : Period := ⟨768614336404564651, -5⟩
    let i : Interval := ⟨.yearToMonth, true, 768614336404564650, 8⟩
    let q : Period := ⟨-768614336404564650, -8⟩
    (p.monthCount = 9223372036854775807 ∧ FitsInt64 p.monthCount ∧ p.totalMonths? = none) ∧
    (i.monthCount = -9223372036854775808 ∧ FitsInt64 i.monthCount ∧
      i.toMonths = .error (.numericOutOfRange "interval month count")) ∧
    Period.ofInterval i = .ok q ∧ q.totalMonths? = some (-9223372036854775808) := by
  intro p i q
  refine ⟨⟨?_, ?_, ?_⟩, ⟨?_, ?_, ?_⟩, ?_, ?_⟩
  all_goals decide

end SqlClient
