import Mathlib.Order.Monotone.Basic
import Honeypot.Calendar
import Honeypot.Proofs.TextOrder

/-!
# The order of days

Later days have later dates, both as days of the calendar (`rank_dayOf_lt`) and in their written
form as long as the year has four digits (`before_date`). The calendar goes in cycles of 400 years
that begin in March; `yearOfCycle` is right since it is monotone and right at both ends of a year.
-/

namespace Honeypot.Calendar

/-! ## Years of a cycle -/

/-- The number of days of a cycle before one of its years. -/
def yearStart (year : Nat) : Nat := 365 * year + year / 4 - year / 100 + year / 400

/-- The year of a cycle that a day of it is in. -/
def yearOfCycle (day : Nat) : Nat := (day - day / 1460 + day / 36524 - day / 146096) / 365

theorem yearOfCycle_mono : Monotone yearOfCycle := by
  refine monotone_nat_of_le_succ fun day => Nat.div_le_div_right ?_
  omega

theorem yearOfCycle_ends : ∀ year < 400, yearOfCycle (yearStart year) = year ∧
    yearOfCycle (yearStart (year + 1) - 1) = year := by
  decide +kernel

theorem exists_yearStart {day bound : Nat} (h : day < yearStart bound) :
    ∃ year < bound, yearStart year ≤ day ∧ day < yearStart (year + 1) := by
  induction bound with
  | zero => exact absurd h (Nat.not_lt_zero day)
  | succ bound ih =>
    by_cases hbound : day < yearStart bound
    · obtain ⟨year, hyear, hrest⟩ := ih hbound
      exact ⟨year, Nat.lt_succ_of_lt hyear, hrest⟩
    · exact ⟨bound, Nat.lt_succ_self bound, Nat.le_of_not_lt hbound, h⟩

/-- **Every day of a cycle is in its year.** -/
theorem yearOfCycle_spec {day : Nat} (h : day < 146097) : yearOfCycle day < 400 ∧
    yearStart (yearOfCycle day) ≤ day ∧ day < yearStart (yearOfCycle day + 1) := by
  have hbound : day < yearStart 400 := h
  obtain ⟨year, hyear, hfrom, hto⟩ := exists_yearStart hbound
  obtain ⟨hfirst, hlast⟩ := yearOfCycle_ends year hyear
  have hsame : yearOfCycle day = year :=
    le_antisymm ((yearOfCycle_mono (Nat.le_sub_one_of_lt hto)).trans hlast.le)
      (hfirst.ge.trans (yearOfCycle_mono hfrom))
  rw [hsame]
  exact ⟨hyear, hfrom, hto⟩

/-! ## Days -/

/-- The cycle that a day is in. -/
def cycleOf (days : Int) : Int := Int.fdiv (days + 719468) 146097

def dayOfCycle (days : Int) : Nat := (days + 719468 - cycleOf days * 146097).toNat

/-- The year of a day, beginning in March. -/
def marchYear (days : Int) : Int := yearOfCycle (dayOfCycle days) + cycleOf days * 400

/-- The number of days before a day in its year. -/
def dayOfYear (days : Int) : Nat :=
  let year := yearOfCycle (dayOfCycle days)
  dayOfCycle days - (365 * year + year / 4 - year / 100)

/-- The number of months before a day of a year. -/
def marchMonth (day : Nat) : Nat := (5 * day + 2) / 153

/-- The day of the month of a day of a year. -/
def marchDay (day : Nat) : Nat := day - (153 * marchMonth day + 2) / 5 + 1

theorem dayOf_eq (days : Int) :
    dayOf days =
      let month := if marchMonth (dayOfYear days) < 10 then marchMonth (dayOfYear days) + 3
        else marchMonth (dayOfYear days) - 9
      ⟨if month ≤ 2 then marchYear days + 1 else marchYear days, month,
        marchDay (dayOfYear days)⟩ := rfl

theorem dayOfCycle_spec (days : Int) : dayOfCycle days < 146097 ∧
    days + 719468 = cycleOf days * 146097 + dayOfCycle days := by
  unfold dayOfCycle cycleOf
  rw [Int.fdiv_eq_ediv_of_nonneg _ (by decide)]
  omega

theorem dayOfYear_spec (days : Int) : dayOfYear days < 366 ∧
    dayOfCycle days = yearStart (yearOfCycle (dayOfCycle days)) + dayOfYear days := by
  obtain ⟨hyear, hfrom, hto⟩ := yearOfCycle_spec (dayOfCycle_spec days).1
  unfold dayOfYear
  dsimp only
  unfold yearStart at hfrom hto ⊢
  omega

theorem marchMonth_lt : ∀ day < 366, marchMonth day < 12 := by decide +kernel

theorem marchDay_bounds : ∀ day < 366, 1 ≤ marchDay day ∧ marchDay day ≤ 31 := by
  decide +kernel

/-- Days in order of year, month and day as one number. -/
def Day.rank (d : Day) : Int := 372 * d.year + 31 * d.month + d.day

/-- What a day of a year contributes to the rank. -/
def marchRank (day : Nat) : Nat := 31 * marchMonth day + marchDay day

theorem marchRank_lt_succ : ∀ day < 365, marchRank day < marchRank (day + 1) := by
  decide +kernel

theorem marchRank_lt {a b : Nat} (h : a < b) (hb : b < 366) : marchRank a < marchRank b := by
  induction b, h using Nat.le_induction with
  | base => exact marchRank_lt_succ a (by omega)
  | succ b _ ih => exact (ih (by omega)).trans (marchRank_lt_succ b (by omega))

/-- January and February are the last two months of a year that begins in March, and the first two
of the next year. -/
theorem rank_dayOf (days : Int) :
    (dayOf days).rank = 372 * marchYear days + marchRank (dayOfYear days) + 93 := by
  have hmonth := marchMonth_lt _ (dayOfYear_spec days).1
  rw [dayOf_eq]
  unfold Day.rank marchRank
  dsimp only
  generalize marchMonth (dayOfYear days) = month at hmonth
  by_cases hearly : month < 10
  · rw [if_pos hearly, if_neg (by omega)]
    push_cast
    omega
  · rw [if_neg hearly, if_pos (by omega)]
    omega

theorem dayOf_bounds (days : Int) : 1 ≤ (dayOf days).month ∧ (dayOf days).month ≤ 12 ∧
    1 ≤ (dayOf days).day ∧ (dayOf days).day ≤ 31 := by
  have hmonth := marchMonth_lt _ (dayOfYear_spec days).1
  have hday := marchDay_bounds _ (dayOfYear_spec days).1
  rw [dayOf_eq]
  dsimp only
  split <;> omega

theorem marchYear_cases {a b : Int} (h : a < b) :
    marchYear a < marchYear b ∨ marchYear a = marchYear b ∧ dayOfYear a < dayOfYear b := by
  obtain ⟨ha, hcycle⟩ := dayOfCycle_spec a
  obtain ⟨hb, hcycle'⟩ := dayOfCycle_spec b
  obtain ⟨hyear, -, -⟩ := yearOfCycle_spec ha
  have hday := (dayOfYear_spec a).2
  have hday' := (dayOfYear_spec b).2
  unfold marchYear
  by_cases hsame : cycleOf a = cycleOf b
  · rw [hsame] at hcycle ⊢
    have hlt : dayOfCycle a < dayOfCycle b := by omega
    obtain heq | hyears := (yearOfCycle_mono hlt.le).eq_or_lt
    · rw [heq] at hday ⊢
      omega
    · omega
  · omega

theorem rank_dayOf_lt {a b : Int} (h : a < b) : (dayOf a).rank < (dayOf b).rank := by
  have hfirst : marchRank 0 ≤ marchRank (dayOfYear b) := by
    obtain hzero | hpos := Nat.eq_zero_or_pos (dayOfYear b)
    · rw [hzero]
    · exact (marchRank_lt hpos (dayOfYear_spec b).1).le
  have hlast : marchRank (dayOfYear a) ≤ marchRank 365 := by
    obtain hmax | hlt := Nat.eq_or_lt_of_le (Nat.le_of_lt_succ (dayOfYear_spec a).1)
    · rw [hmax]
    · exact (marchRank_lt hlt (by decide)).le
  have hyear : marchRank 365 < marchRank 0 + 372 := by decide
  rw [rank_dayOf, rank_dayOf]
  obtain hlt | ⟨heq, hlt⟩ := marchYear_cases h
  · omega
  · have hrank := marchRank_lt hlt (dayOfYear_spec b).1
    omega

/-! ## Dates -/

/-- Whether the year of an instant has four digits. -/
def Instant.HasFourDigits (t : Instant) : Prop := 1000 ≤ t.moment.year ∧ t.moment.year ≤ 9999

theorem toList_twoDigits {n : Nat} (h : n < 100) : (twoDigits n).toList = Text.numeral 2 n := by
  have hall : ∀ n < 100, (twoDigits n).toList = Text.numeral 2 n := by decide +kernel
  exact hall n h

theorem toList_date {t : Instant} (h : t.HasFourDigits) :
    t.moment.date.toList = Text.numeral 4 t.moment.year.toNat ++
      '-' :: (Text.numeral 2 t.moment.month ++ '-' :: Text.numeral 2 t.moment.day) := by
  obtain ⟨hlow, hhigh⟩ := h
  obtain ⟨-, hmonth, -, hday⟩ := dayOf_bounds t.days
  obtain ⟨year, hyear⟩ := Int.eq_ofNat_of_zero_le (by omega : 0 ≤ t.moment.year)
  have hdigits : (Text.ofInt t.moment.year).toList = Text.numeral 4 t.moment.year.toNat := by
    rw [hyear] at hlow hhigh ⊢
    exact @Text.toList_ofNat 3 year (by omega) (by omega)
  have hmonth' : (twoDigits t.moment.month).toList = Text.numeral 2 t.moment.month :=
    toList_twoDigits (by change t.moment.month ≤ 12 at hmonth; omega)
  have hday' : (twoDigits t.moment.day).toList = Text.numeral 2 t.moment.day :=
    toList_twoDigits (by change t.moment.day ≤ 31 at hday; omega)
  unfold Moment.date Moment.monthDayDigits
  rw [String.toList_append, String.toList_append, String.toList_append, String.toList_append,
    hdigits, hmonth', hday']
  simp

theorem date_congr {s t : Instant} (h : s.days = t.days) : s.moment.date = t.moment.date := by
  unfold Moment.date Moment.monthDayDigits Instant.moment
  rw [h]

/-- **The date of a later day comes later** in the order of texts. -/
theorem before_date {s t : Instant} (hs : s.HasFourDigits) (ht : t.HasFourDigits)
    (h : s.days < t.days) : s.moment.date.toList < t.moment.date.toList := by
  have hrank : s.moment.toDay.rank < t.moment.toDay.rank := rank_dayOf_lt h
  have hbounds : 1 ≤ s.moment.month ∧ s.moment.month ≤ 12 ∧ 1 ≤ s.moment.day ∧ s.moment.day ≤ 31 :=
    dayOf_bounds s.days
  have hbounds' : 1 ≤ t.moment.month ∧ t.moment.month ≤ 12 ∧ 1 ≤ t.moment.day ∧
      t.moment.day ≤ 31 := dayOf_bounds t.days
  have hyears := hs
  have hyears' := ht
  unfold Instant.HasFourDigits at hyears hyears'
  unfold Day.rank at hrank
  rw [toList_date hs, toList_date ht, Text.numerals_lt_iff (by omega) (by omega) (by omega)
    (by omega) (by omega) (by omega)]
  omega

/-- As time goes on the date stays or a later one comes. -/
theorem date_cases {s t : Instant} (hs : s.HasFourDigits) (ht : t.HasFourDigits)
    (h : s.micros ≤ t.micros) :
    s.moment.date = t.moment.date ∨ s.moment.date.toList < t.moment.date.toList := by
  have hdays : s.days ≤ t.days := by
    unfold Instant.days
    rw [Int.fdiv_eq_ediv_of_nonneg _ (by decide), Int.fdiv_eq_ediv_of_nonneg _ (by decide)]
    omega
  obtain heq | hlt := hdays.eq_or_lt
  · exact .inl (date_congr heq)
  · exact .inr (before_date hs ht hlt)

end Honeypot.Calendar
