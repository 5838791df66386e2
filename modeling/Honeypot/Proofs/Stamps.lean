import Honeypot.Proofs.Calendar

/-!
# Stamps of log lines

A stamp gives the month by its name, the day and the time, and no year. The stamps of two instants
that lie at least a minute and at most two days apart are in the order of time, unless a month
begins in between whose name comes before the name of the month before it (`logStamp_cases`).
-/

namespace Honeypot.Calendar

/-! ## Days that are near -/

theorem yearStart_mono : Monotone yearStart := by
  refine monotone_nat_of_le_succ fun year => ?_
  unfold yearStart
  omega

/-- The day on which the year of a day began in March, counted as the cycles are. -/
def marchStart (days : Int) : Int :=
  cycleOf days * 146097 + yearStart (yearOfCycle (dayOfCycle days))

theorem days_eq (days : Int) : days + 719468 = marchStart days + dayOfYear days := by
  have hcycle := (dayOfCycle_spec days).2
  have hyear := (dayOfYear_spec days).2
  unfold marchStart
  omega

theorem marchStart_congr {a b : Int} (h : marchYear a = marchYear b) :
    marchStart a = marchStart b := by
  obtain ⟨hyear, -, -⟩ := yearOfCycle_spec (dayOfCycle_spec a).1
  obtain ⟨hyear', -, -⟩ := yearOfCycle_spec (dayOfCycle_spec b).1
  unfold marchYear at h
  unfold marchStart
  have hcycle : cycleOf a = cycleOf b := by omega
  have hsame : yearOfCycle (dayOfCycle a) = yearOfCycle (dayOfCycle b) := by omega
  rw [hcycle, hsame]

/-- A later year begins after all days of a year, of which there are at least 365. -/
theorem marchStart_gap {a b : Int} (h : marchYear a < marchYear b) :
    marchStart a + 365 ≤ marchStart b ∧ a + 719468 < marchStart b := by
  obtain ⟨hyear, -, hnext⟩ := yearOfCycle_spec (dayOfCycle_spec a).1
  obtain ⟨hyear', -, -⟩ := yearOfCycle_spec (dayOfCycle_spec b).1
  have hcycle := (dayOfCycle_spec a).2
  unfold marchYear at h
  unfold marchStart
  generalize yearOfCycle (dayOfCycle a) = year at *
  generalize yearOfCycle (dayOfCycle b) = year' at *
  have hlength : yearStart year + 365 ≤ yearStart (year + 1) := by
    unfold yearStart
    omega
  obtain heq | hlt : cycleOf a = cycleOf b ∨ cycleOf a < cycleOf b := by omega
  · have hmono : yearStart (year + 1) ≤ yearStart year' := yearStart_mono (by omega)
    omega
  · have hmono : yearStart (year + 1) ≤ yearStart 400 := yearStart_mono hyear
    have hcycles : yearStart 400 = 146097 := rfl
    omega

theorem march_near : ∀ day < 366, ∀ more ≤ 2, day + more < 366 →
    marchMonth (day + more) = marchMonth day ∧ marchDay (day + more) = marchDay day + more ∨
      marchMonth (day + more) = marchMonth day + 1 := by
  decide +kernel

theorem marchMonth_ends : (∀ day < 366, 363 ≤ day → marchMonth day = 11) ∧
    ∀ day ≤ 1, marchMonth day = 0 := by
  decide +kernel

/-- **Within two days** the month stays and the days of it are counted on, or the next month
begins. -/
theorem dayOf_near {a b : Int} (hab : a ≤ b) (hba : b ≤ a + 2) :
    (dayOf b).month = (dayOf a).month ∧ ((dayOf b).day : Int) = (dayOf a).day + (b - a) ∨
      (dayOf b).month = (dayOf a).month % 12 + 1 := by
  obtain rfl | hlt := hab.eq_or_lt
  · exact .inl ⟨rfl, by omega⟩
  have ha := days_eq a
  have hb := days_eq b
  have hmonth := marchMonth_lt _ (dayOfYear_spec a).1
  rw [dayOf_eq, dayOf_eq]
  dsimp only
  obtain hyear | ⟨hyear, _⟩ := marchYear_cases hlt
  · -- A year that begins in March ends in February.
    obtain ⟨hgap, hbefore⟩ := marchStart_gap hyear
    rw [marchMonth_ends.1 (dayOfYear a) (dayOfYear_spec a).1 (by omega),
      marchMonth_ends.2 (dayOfYear b) (by omega)]
    exact .inr rfl
  · have hstart := marchStart_congr hyear
    obtain ⟨more, hmore⟩ := Int.eq_ofNat_of_zero_le (show 0 ≤ b - a by omega)
    have hday : dayOfYear b = dayOfYear a + more := by omega
    have hlast := (dayOfYear_spec b).1
    rw [hday] at hlast ⊢
    obtain ⟨hsame, hcount⟩ | hnext := march_near _ (dayOfYear_spec a).1 more (by omega) hlast
    · rw [hsame, hcount]
      exact .inl ⟨rfl, by omega⟩
    · rw [hnext]
      refine .inr ?_
      split <;> split <;> omega

/-! ## The order of stamps -/

/-- The months whose names come before the name of the month before: all but January, March, May and
September. -/
def earlierNamed : List Nat := [2, 4, 6, 7, 8, 10, 11, 12]

/-- Whether a month has begun from an instant to another that has such a name. -/
def ChangesBack (s t : Instant) : Prop :=
  s.moment.month ≠ t.moment.month ∧ t.moment.month ∈ earlierNamed

instance (s t : Instant) : Decidable (ChangesBack s t) := instDecidableAnd

theorem length_monthName {m : Moment} (hlow : 1 ≤ m.month) (hhigh : m.month ≤ 12) :
    m.monthName.toList.length = 3 := by
  have hall : ∀ month ≤ 12, 1 ≤ month →
      ((monthNames[month - 1]?).getD "").toList.length = 3 := by decide
  exact hall m.month hhigh hlow

/-- The name of the month after a month comes before it or after it. -/
theorem monthName_next {m n : Moment} (hlow : 1 ≤ m.month) (hhigh : m.month ≤ 12)
    (hnext : n.month = m.month % 12 + 1) :
    if n.month ∈ earlierNamed then n.monthName.toList < m.monthName.toList
    else m.monthName.toList < n.monthName.toList := by
  have hall : ∀ month ≤ 12, 1 ≤ month → if month % 12 + 1 ∈ earlierNamed then
      Text.before ((monthNames[month % 12 + 1 - 1]?).getD "")
        ((monthNames[month - 1]?).getD "") = true
    else Text.before ((monthNames[month - 1]?).getD "")
        ((monthNames[month % 12 + 1 - 1]?).getD "") = true := by decide
  simp only [Text.before_iff] at hall
  unfold Moment.monthName
  rw [hnext]
  exact hall m.month hhigh hlow

/-- The seconds of a day before an instant. -/
def Instant.daySeconds (t : Instant) : Nat := (t.micros - t.days * 86400000000).toNat / 1000000

theorem daySeconds_spec (t : Instant) : t.daySeconds < 86400 ∧
    t.days * 86400000000 + t.daySeconds * 1000000 ≤ t.micros ∧
      t.micros < t.days * 86400000000 + t.daySeconds * 1000000 + 1000000 := by
  unfold Instant.daySeconds Instant.days
  rw [Int.fdiv_eq_ediv_of_nonneg _ (by decide)]
  omega

theorem month_bounds (t : Instant) : 1 ≤ t.moment.month ∧ t.moment.month ≤ 12 := by
  obtain ⟨hlow, hhigh, -, -⟩ := dayOf_bounds t.days
  exact ⟨hlow, hhigh⟩

theorem toList_clock (t : Instant) : t.moment.clock.toList =
    Text.numeral 2 (t.daySeconds / 3600) ++ ':' :: (Text.numeral 2 (t.daySeconds / 60 % 60) ++
      ':' :: Text.numeral 2 (t.daySeconds % 60)) := by
  have hday := (daySeconds_spec t).1
  have hhour := toList_twoDigits (n := t.daySeconds / 3600) (by omega)
  have hminute := toList_twoDigits (n := t.daySeconds / 60 % 60) (by omega)
  have hsecond := toList_twoDigits (n := t.daySeconds % 60) (by omega)
  show (twoDigits (t.daySeconds / 3600) ++ ":" ++ twoDigits (t.daySeconds / 60 % 60) ++ ":" ++
    twoDigits (t.daySeconds % 60)).toList = _
  rw [String.toList_append, String.toList_append, String.toList_append, String.toList_append,
    hhour, hminute, hsecond]
  simp

theorem toList_logStamp (t : Instant) : t.moment.logStamp.toList =
    t.moment.monthName.toList ++ ' ' :: (Text.numeral 2 t.moment.day ++
      ' ' :: t.moment.clock.toList) := by
  have hhigh : t.moment.day ≤ 31 := (dayOf_bounds t.days).2.2.2
  have hday := toList_twoDigits (n := t.moment.day) (by omega)
  unfold Moment.logStamp Moment.monthDay
  rw [String.toList_append, String.toList_append, String.toList_append, String.toList_append, hday]
  simp

theorem length_logStamp (t : Instant) : t.moment.logStamp.toList.length = 15 := by
  obtain ⟨hlow, hhigh⟩ := month_bounds t
  rw [toList_logStamp, toList_clock]
  simp only [List.length_append, List.length_cons, Text.length_numeral,
    length_monthName hlow hhigh]

variable {s t : Instant}

theorem clock_lt (h : s.daySeconds < t.daySeconds) :
    s.moment.clock.toList < t.moment.clock.toList := by
  have hs := (daySeconds_spec s).1
  have ht := (daySeconds_spec t).1
  rw [toList_clock, toList_clock, Text.numerals_lt_iff (by omega) (by omega) (by omega) (by omega)
    (by omega) (by omega)]
  omega

/-- In one month stamps are in the order of days and, on one day, of the clock. -/
theorem logStamp_lt_of_month (hmonth : s.moment.month = t.moment.month)
    (h : s.moment.day < t.moment.day ∨
      s.moment.day = t.moment.day ∧ s.daySeconds < t.daySeconds) :
    s.moment.logStamp.toList < t.moment.logStamp.toList := by
  have hs : s.moment.day ≤ 31 := (dayOf_bounds s.days).2.2.2
  have ht : t.moment.day ≤ 31 := (dayOf_bounds t.days).2.2.2
  have hname : s.moment.monthName = t.moment.monthName := by
    unfold Moment.monthName
    rw [hmonth]
  rw [toList_logStamp, toList_logStamp, hname, Text.append_lt_append_iff rfl, List.cons_lt_cons_iff,
    Text.append_lt_append_iff (by rw [Text.length_numeral, Text.length_numeral]),
    List.cons_lt_cons_iff, Text.numeral_lt_iff (by omega) (by omega),
    Text.numeral_inj (by omega) (by omega)]
  refine .inr ⟨rfl, .inr ⟨rfl, h.imp_right fun ⟨hday, hclock⟩ => ⟨hday, .inr ⟨rfl, ?_⟩⟩⟩⟩
  exact clock_lt hclock

/-- The stamp of a month comes first whose name comes first. -/
theorem logStamp_lt_of_monthName (h : s.moment.monthName.toList < t.moment.monthName.toList) :
    s.moment.logStamp.toList < t.moment.logStamp.toList := by
  obtain ⟨hlow, hhigh⟩ := month_bounds s
  obtain ⟨hlow', hhigh'⟩ := month_bounds t
  rw [toList_logStamp, toList_logStamp, Text.append_lt_append_iff (by
    rw [length_monthName hlow hhigh, length_monthName hlow' hhigh'])]
  exact .inl h

/-- **Stamps of instants that are near** each other are in the order of time, unless a month has
begun whose name comes before that of the month before. Then they are the other way round. -/
theorem logStamp_cases (hmin : s.micros + 60000000 ≤ t.micros)
    (hmax : t.micros ≤ s.micros + 172800000000) :
    if ChangesBack s t then t.moment.logStamp.toList < s.moment.logStamp.toList
    else s.moment.logStamp.toList < t.moment.logStamp.toList := by
  obtain ⟨_, hsday, hsnext⟩ := daySeconds_spec s
  obtain ⟨_, htday, htnext⟩ := daySeconds_spec t
  obtain ⟨hlow, hhigh⟩ := month_bounds s
  obtain ⟨hmonth, hday⟩ | hnext := dayOf_near (a := s.days) (b := t.days) (by omega) (by omega)
  · have hback : ¬ChangesBack s t := fun h => h.1 hmonth.symm
    have hcount : (t.moment.day : Int) = s.moment.day + (t.days - s.days) := hday
    rw [if_neg hback]
    refine logStamp_lt_of_month hmonth.symm ?_
    omega
  · have hmonth : t.moment.month = s.moment.month % 12 + 1 := hnext
    have hback : ChangesBack s t ↔ t.moment.month ∈ earlierNamed := by
      refine and_iff_right ?_
      omega
    have hname := monthName_next hlow hhigh hmonth
    by_cases hearlier : t.moment.month ∈ earlierNamed
    · rw [if_pos hearlier] at hname
      rw [if_pos (hback.mpr hearlier)]
      exact logStamp_lt_of_monthName hname
    · rw [if_neg hearlier] at hname
      rw [if_neg (mt hback.mp hearlier)]
      exact logStamp_lt_of_monthName hname

end Honeypot.Calendar
