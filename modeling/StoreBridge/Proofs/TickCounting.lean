import StoreBridge.DateTime.Ticks
import StoreBridge.Proofs.DateCounting

/-! What the number of ticks of a date/time is. Microseconds are counted toward zero and the hundreds
of nanoseconds beyond them upwards, so that the sum of both is the nanoseconds in hundreds, rounded
down, from the beginning of year 1 on; before it the sum is ten more between two whole microseconds.
The multiplication is guarded and the addition behind it is not: the number is the sum, or the
refusal of one that is too large, save in less than a microsecond at either end of the range. From
year 1 to year 9999 the number is exact, and the date/time is found again from it. -/
namespace StoreBridge.DateTime

/-- Ten times the whole microseconds, and the hundreds of nanoseconds beyond them. -/
def tickSum (t : DateTime) : Int :=
  10 * t.microseconds + t.subMicrosecond

/-- The date/time lies before year 1, between two whole microseconds. -/
def SplitsMicrosecond (t : DateTime) : Prop :=
  t.nanoseconds < 0 ∧ t.nanoseconds % 1000 ≠ 0

/-- The date/time lies in the last microsecond of which ten ticks can be counted, but so late in it
that they cannot be counted to the end. -/
def PastLastTick (t : DateTime) : Prop :=
  922337203685477580800 ≤ t.nanoseconds ∧ t.nanoseconds < 922337203685477581000

/-- The date/time lies in a microsecond of which ten ticks cannot be counted, but so late in it that
the sum is a number of 64 bits. -/
def BeforeFirstTick (t : DateTime) : Prop :=
  -922337203685477581800 ≤ t.nanoseconds ∧ t.nanoseconds < -922337203685477581000

instance (t : DateTime) : Decidable t.SplitsMicrosecond :=
  inferInstanceAs (Decidable (_ ∧ _))

instance (t : DateTime) : Decidable t.PastLastTick :=
  inferInstanceAs (Decidable (_ ∧ _))

instance (t : DateTime) : Decidable t.BeforeFirstTick :=
  inferInstanceAs (Decidable (_ ∧ _))

/-- The number of ticks is the sum where that is a number of 64 bits, and refused where it is not. -/
structure CountsExactly (t : DateTime) : Prop where
  counted : InRange t.tickSum → ∃ n, t.ticks = .ok n ∧ n.toInt = t.tickSum
  refused : ¬ InRange t.tickSum → t.ticks = .error (.ticksOverflow (t.fullText ' '))

section Sum
variable (t : DateTime)

/-- Toward zero is up before year 1. -/
theorem microseconds_eq :
    t.microseconds = t.nanoseconds / 1000 +
      if t.nanoseconds < 0 ∧ t.nanoseconds % 1000 ≠ 0 then 1 else 0 := by
  have sign : Int.sign 1000 = 1 := rfl
  rw [microseconds, Int.tdiv_eq_ediv, sign]
  split <;> split <;> omega

/-- The fraction of the second tells the hundreds of nanoseconds beyond a microsecond, as whole
seconds are whole microseconds. -/
theorem subMicrosecond_eq : (t.subMicrosecond : Int) = t.nanoseconds % 1000 / 100 := by
  unfold subMicrosecond nanoseconds
  omega

/-- The sum rounds down, except between two whole microseconds before year 1. -/
theorem tickSum_eq :
    t.tickSum = t.nanoseconds / 100 + if t.SplitsMicrosecond then 10 else 0 := by
  unfold tickSum SplitsMicrosecond
  rw [microseconds_eq, subMicrosecond_eq]
  split <;> omega

/-- Years are few enough for their microseconds to be numbers of 64 bits. -/
theorem inRange_microseconds : InRange t.microseconds := by
  have years := t.fits.year_range
  have nano := t.fits.nano_lt
  have day := t.secondOfDay_lt
  have bounds := t.date.number_bounds
  have least := Calendar.daysBeforeYear_mono years.1
  have greatest := Calendar.daysBeforeYear_mono (show t.year + 1 ≤ 262143 by omega)
  have first : Calendar.daysBeforeYear (-262143) = -95746130 := by decide
  have last : Calendar.daysBeforeYear 262143 = 95745399 := by decide
  rw [number_date] at bounds
  simp only [date] at bounds
  rw [microseconds_eq, InRange]
  unfold nanoseconds
  split <;> omega

/-- The product is a number of 64 bits less than so many nanoseconds from the beginning of year 1. -/
theorem inRange_product_iff : InRange (10 * t.microseconds) ↔
    -922337203685477581000 < t.nanoseconds ∧ t.nanoseconds < 922337203685477581000 := by
  rw [InRange, microseconds_eq]
  split <;> omega

/-- The sum is a number of 64 bits where the product is one, save past the last tick, and before the
first tick. -/
theorem inRange_tickSum_iff : InRange t.tickSum ↔
    InRange (10 * t.microseconds) ∧ ¬ t.PastLastTick ∨ t.BeforeFirstTick := by
  rw [inRange_product_iff, InRange, tickSum, subMicrosecond_eq, microseconds_eq]
  unfold PastLastTick BeforeFirstTick
  split <;> omega

end Sum

section Count
variable {t : DateTime} {n : Int64}

theorem PastLastTick.inRange_product (past : t.PastLastTick) : InRange (10 * t.microseconds) := by
  apply (inRange_product_iff t).mpr
  unfold PastLastTick at past
  omega

theorem BeforeFirstTick.not_inRange_product (before : t.BeforeFirstTick) :
    ¬ InRange (10 * t.microseconds) := by
  rw [inRange_product_iff]
  unfold BeforeFirstTick at before
  omega

/-- The number is the sum, in 64 bits; what is guarded is the product. -/
theorem ticks_eq (t : DateTime) :
    t.ticks = if InRange (10 * t.microseconds) then .ok (Int64.ofInt t.tickSum)
      else .error (.ticksOverflow (t.fullText ' ')) := by
  unfold ticks tickSum
  rw [Int64.ofInt_add]
  rfl

theorem ticks_eq_ok : t.ticks = .ok n ↔
    InRange (10 * t.microseconds) ∧ n = Int64.ofInt t.tickSum := by
  rw [ticks_eq]
  split
  · rename_i inside
    simp [inside, eq_comm]
  · rename_i outside
    simp [outside]

theorem exists_ticks (inside : InRange (10 * t.microseconds)) : ∃ n, t.ticks = .ok n :=
  ⟨_, ticks_eq_ok.mpr ⟨inside, rfl⟩⟩

theorem ticks_refused (outside : ¬ InRange (10 * t.microseconds)) :
    t.ticks = .error (.ticksOverflow (t.fullText ' ')) := by
  rw [ticks_eq, if_neg outside]

theorem toInt_ticks (counted : t.ticks = .ok n) (within : ¬ t.PastLastTick) :
    n.toInt = t.tickSum := by
  obtain ⟨inside, rfl⟩ := ticks_eq_ok.mp counted
  have sum : InRange t.tickSum := (inRange_tickSum_iff t).mpr (.inl ⟨inside, within⟩)
  exact Int64.toInt_ofInt_of_le sum.1 (Int.lt_add_one_of_le sum.2)

/-- Past the last tick the number starts again from the least one. -/
theorem toInt_ticks_past (counted : t.ticks = .ok n) (past : t.PastLastTick) :
    n.toInt = t.tickSum - 18446744073709551616 := by
  obtain ⟨-, rfl⟩ := ticks_eq_ok.mp counted
  unfold PastLastTick at past
  -- The sum is one or two more than the greatest number, so that it wraps around once.
  rw [Int64.toInt_ofInt, tickSum, subMicrosecond_eq, microseconds_eq, Int.bmod_def]
  simp only [Int64.size]
  split <;> split <;> omega

/-- The number of ticks is exact but for the date/times at either end of the range. -/
theorem countsExactly_iff : t.CountsExactly ↔ ¬ t.PastLastTick ∧ ¬ t.BeforeFirstTick := by
  have sum := inRange_tickSum_iff t
  constructor
  · intro exactly
    constructor
    · intro past
      -- The product lets the number through, and the sum does not fit.
      have outside : ¬ InRange t.tickSum := by
        intro fits
        rcases sum.mp fits with ⟨-, within⟩ | before
        · exact within past
        · exact before.not_inRange_product past.inRange_product
      obtain ⟨n, counted⟩ := exists_ticks past.inRange_product
      rw [exactly.refused outside] at counted
      cases counted
    · intro before
      obtain ⟨n, counted, -⟩ := exactly.counted (sum.mpr (.inr before))
      rw [ticks_refused before.not_inRange_product] at counted
      cases counted
  · rintro ⟨notPast, notBefore⟩
    constructor
    · intro fits
      obtain ⟨inside, -⟩ := (sum.mp fits).resolve_right notBefore
      obtain ⟨n, counted⟩ := exists_ticks inside
      exact ⟨n, counted, toInt_ticks counted notPast⟩
    · intro outside
      apply ticks_refused
      intro inside
      exact outside (sum.mpr (.inl ⟨inside, notPast⟩))

end Count

/-! ### The ends of the range -/

section Order
variable {a b : DateTime} {m n : Int64}

/-- A number of ticks is the nanoseconds in hundreds, rounded down; it is ten more between two
microseconds before year 1, and starts again from the least number past the last tick. -/
theorem toInt_ticks_eq (counted : a.ticks = .ok m) :
    m.toInt = a.nanoseconds / 100 + (if a.SplitsMicrosecond then 10 else 0) -
      if a.PastLastTick then 18446744073709551616 else 0 := by
  rw [← tickSum_eq]
  split
  · rename_i past
    exact toInt_ticks_past counted past
  · rename_i within
    rw [toInt_ticks counted within, Int.sub_zero]

/-- The first date/time is between two microseconds before year 1, and the second is not and comes
less than a microsecond later. -/
def Overtakes (a b : DateTime) : Prop :=
  a.SplitsMicrosecond ∧ ¬ b.SplitsMicrosecond ∧ b.nanoseconds / 100 < a.nanoseconds / 100 + 10

instance (a b : DateTime) : Decidable (a.Overtakes b) :=
  inferInstanceAs (Decidable (_ ∧ _))

/-- The sums are in the order of the nanoseconds, unless the first date/time overtakes the second. -/
theorem tickSum_le_iff (order : a.nanoseconds ≤ b.nanoseconds) :
    a.tickSum ≤ b.tickSum ↔ ¬ a.Overtakes b := by
  have floors : a.nanoseconds / 100 ≤ b.nanoseconds / 100 := Int.ediv_le_ediv (by decide) order
  rw [tickSum_eq, tickSum_eq]
  by_cases splitsA : a.SplitsMicrosecond
  · by_cases splitsB : b.SplitsMicrosecond
    · simp [Overtakes, splitsA, splitsB, floors]
    · simp [Overtakes, splitsA, splitsB]
  · simp only [Overtakes, splitsA, if_false, false_and, not_false_eq_true, iff_true]
    split <;> omega

/-- A sum past the last tick starts again below all others. -/
theorem lt_of_past (countedA : a.ticks = .ok m) (countedB : b.ticks = .ok n)
    (pastA : ¬ a.PastLastTick) (pastB : b.PastLastTick) : n < m := by
  obtain ⟨insideA, -⟩ := ticks_eq_ok.mp countedA
  obtain ⟨insideB, -⟩ := ticks_eq_ok.mp countedB
  -- The products are multiples of ten, so that the least of them is eight above the least number.
  rw [Int64.lt_iff_toInt_lt, toInt_ticks countedA pastA, toInt_ticks_past countedB pastB]
  unfold InRange at insideA insideB
  unfold tickSum subMicrosecond
  omega

/-- The numbers of ticks are in the order of the nanoseconds, unless the first date/time overtakes
the second or only the second is past the last tick. -/
theorem ticks_le_iff (order : a.nanoseconds ≤ b.nanoseconds) (countedA : a.ticks = .ok m)
    (countedB : b.ticks = .ok n) :
    m ≤ n ↔ ¬ a.Overtakes b ∧ (b.PastLastTick → a.PastLastTick) := by
  obtain ⟨inside, -⟩ := ticks_eq_ok.mp countedB
  have bounds := (inRange_product_iff b).mp inside
  rw [← tickSum_le_iff order]
  by_cases pastB : b.PastLastTick
  · by_cases pastA : a.PastLastTick
    · rw [Int64.le_iff_toInt_le, toInt_ticks_past countedA pastA, toInt_ticks_past countedB pastB]
      simp [pastA]
    · have below := lt_of_past countedA countedB pastA pastB
      simp [pastA, pastB, below]
  · have pastA : ¬ a.PastLastTick := by
      intro pastA
      unfold PastLastTick at pastA pastB
      omega
    rw [Int64.le_iff_toInt_le, toInt_ticks countedA pastA, toInt_ticks countedB pastB]
    simp [pastB]

end Order

/-- A date/time from year 1 to year 9999 that is no leap second. -/
structure Everyday (t : DateTime) : Prop where
  least : 1 ≤ t.year
  greatest : t.year ≤ 9999
  ordinary : t.isLeapSecond = false

/-- The date/time without the part of a tick that it lies beyond one. -/
def truncated (t : DateTime) : DateTime where
  year := t.year
  month := t.month
  day := t.day
  hour := t.hour
  minute := t.minute
  second := t.second
  nano := t.nano / 100 * 100
  fits := {
    t.fits with
    nano_lt := by
      have nano := t.fits.nano_lt
      omega
    leap := by
      intro late
      exact t.fits.leap (by omega) }

/-- The number is the nanoseconds since the beginning of year 1 in hundreds, rounded down, and the
date/time is found again from it but for the part of a tick. -/
structure ToldBy (t : DateTime) (n : Int64) : Prop where
  elapsed : ∃ N : Nat, (∀ M, afterStart? M = some t ↔ M = N) ∧ n.toInt = N / 100
  range : 0 ≤ n.toInt ∧ n.toInt ≤ 3155378975999999999
  returns : afterStart? (100 * n.toInt.toNat) = some t.truncated

section Everyday
variable {t u : DateTime} {n m : Int64}

theorem nanoseconds_truncated (t : DateTime) :
    t.truncated.nanoseconds = 100 * (t.nanoseconds / 100) := by
  show (86400 * t.dayNumber + t.secondOfDay) * 1000000000 + ((t.nano / 100 * 100 : Nat) : Int) = _
  unfold nanoseconds
  omega

theorem isLeapSecond_truncated (ordinary : t.isLeapSecond = false) :
    t.truncated.isLeapSecond = false := by
  have nano := nano_lt_of_ordinary ordinary
  apply decide_eq_false
  show ¬ 1000000000 ≤ t.nano / 100 * 100
  omega

theorem Everyday.nanoseconds_bounds (everyday : t.Everyday) :
    0 ≤ t.nanoseconds ∧ t.nanoseconds ≤ 315537897599999999999 := by
  have nano := nano_lt_of_ordinary everyday.ordinary
  have day := t.secondOfDay_lt
  have bounds := t.date.number_bounds
  have greatest : t.date.year + 1 ≤ 10000 := Int.add_le_add_right everyday.greatest 1
  have years := Calendar.daysBeforeYear_mono greatest
  have last : Calendar.daysBeforeYear 10000 = 3652059 := by decide
  rw [number_date] at bounds
  refine ⟨(nanoseconds_nonneg_iff everyday.ordinary).mpr everyday.least, ?_⟩
  unfold nanoseconds
  omega

/-- There is a number of ticks, and it rounds down. -/
theorem Everyday.exists_ticks (everyday : t.Everyday) :
    ∃ n, t.ticks = .ok n ∧ n.toInt = t.nanoseconds / 100 := by
  have bounds := everyday.nanoseconds_bounds
  have inside : InRange (10 * t.microseconds) := (inRange_product_iff t).mpr (by omega)
  have whole : ¬ t.SplitsMicrosecond := by
    unfold SplitsMicrosecond
    omega
  have within : ¬ t.PastLastTick := by
    unfold PastLastTick
    omega
  obtain ⟨n, counted⟩ := DateTime.exists_ticks inside
  have number := toInt_ticks_eq counted
  rw [if_neg whole, if_neg within, Int.add_zero, Int.sub_zero] at number
  exact ⟨n, counted, number⟩

theorem Everyday.toldBy (everyday : t.Everyday) (number : n.toInt = t.nanoseconds / 100) :
    t.ToldBy n := by
  have bounds := everyday.nanoseconds_bounds
  constructor
  · refine ⟨t.nanoseconds.toNat, ?_, by omega⟩
    intro M
    rw [afterStart?_eq_some_iff]
    constructor
    · rintro ⟨-, counted⟩
      omega
    · intro same
      exact ⟨everyday.ordinary, by omega⟩
  · omega
  · apply afterStart?_eq_some_iff.mpr
    refine ⟨isLeapSecond_truncated everyday.ordinary, ?_⟩
    rw [nanoseconds_truncated]
    omega

/-- Of two date/times that differ after truncation the later has the larger number. -/
theorem Everyday.ticks_lt (everyday : t.Everyday) (everydayU : u.Everyday)
    (number : n.toInt = t.nanoseconds / 100) (numberU : m.toInt = u.nanoseconds / 100)
    (order : t < u) (different : t.truncated ≠ u.truncated) : n < m := by
  rw [Int64.lt_iff_toInt_lt, number, numberU]
  have less := nanoseconds_lt everyday.ordinary order
  have unequal : t.nanoseconds / 100 ≠ u.nanoseconds / 100 := by
    intro same
    apply different
    apply nanoseconds_injective (isLeapSecond_truncated everyday.ordinary)
      (isLeapSecond_truncated everydayU.ordinary)
    rw [nanoseconds_truncated, nanoseconds_truncated, same]
  omega

end Everyday

/-- Every date/time from year 1 to year 9999 that is no leap second has a number of ticks that tells
it, and the later of two that differ after truncation has the larger number. -/
theorem ticks_everyday {t : DateTime} (everyday : t.Everyday) :
    ∃ n, t.ticks = .ok n ∧ t.ToldBy n ∧
      ∀ u m, u.Everyday → u.ticks = .ok m → t < u → t.truncated ≠ u.truncated → n < m := by
  obtain ⟨n, counted, number⟩ := everyday.exists_ticks
  refine ⟨n, counted, everyday.toldBy number, ?_⟩
  intro u m everydayU countedU order different
  obtain ⟨k, countedK, numberU⟩ := everydayU.exists_ticks
  obtain rfl : m = k := by
    rw [countedU] at countedK
    cases countedK
    rfl
  exact everyday.ticks_lt everydayU number numberU order different

/-- The last tick of the range is told from the one before it. -/
theorem ticks_everyday_last :
    let early : DateTime := ⟨9999, 12, 31, 23, 59, 59, 999999899, by decide⟩
    let last : DateTime := ⟨9999, 12, 31, 23, 59, 59, 999999999, by decide⟩
    early.Everyday ∧ last.Everyday ∧ last.ticks = .ok 3155378975999999999 ∧
      ∃ n, early.ticks = .ok n ∧ early.ToldBy n ∧ n < 3155378975999999999 := by
  intro early last
  have everydayEarly : early.Everyday := ⟨by decide, by decide, by decide⟩
  have everyday : last.Everyday := ⟨by decide, by decide, by decide⟩
  have counted : last.ticks = .ok 3155378975999999999 := by decide +kernel
  obtain ⟨n, countedEarly, told, larger⟩ := ticks_everyday everydayEarly
  exact ⟨everydayEarly, everyday, counted, n, countedEarly, told,
    larger last _ everyday counted (by decide) (by decide)⟩

end StoreBridge.DateTime
