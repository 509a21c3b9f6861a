import MailSearch.Calendar.Date

/-!
# Day after day

The place of a date in the calendar is computed in closed form, from the years, the months and the
days before it. Here the calendar is told day by day instead: `MonthHas` says how long the months
are, `Date.Next` which day comes after another, and `Date.CountsDays` counts the days from the epoch
in steps of one, forward or back. The closed form is that count (`Date.countsDays_iff`).

Both directions rest on the step lemma: from a date to the next the place grows by one
(`Date.Next.ordinal_eq`). For the converse every date has to be reached from the epoch, and it is,
as there is a next day in every year but the last and a previous one in every year but the first.
That the dates meet at the epoch is because no two dates have the same place, which also gives the
order of dates (`Date.ordinal_lt_iff`).
-/

namespace MailSearch.Calendar

/-! ### Years and months -/

/-- A leap year: a multiple of four, and of four hundred if it ends a century. -/
def IsLeap (year : Nat) : Prop :=
  4 ∣ year ∧ (100 ∣ year → 400 ∣ year)

/-- The lengths of the months. -/
inductive MonthHas (year : Nat) : (month days : Nat) → Prop
  | long {month : Nat} (hmonth : month ∈ [1, 3, 5, 7, 8, 10, 12]) : MonthHas year month 31
  | short {month : Nat} (hmonth : month ∈ [4, 6, 9, 11]) : MonthHas year month 30
  | february (hyear : ¬ IsLeap year) : MonthHas year 2 28
  | leapFebruary (hyear : IsLeap year) : MonthHas year 2 29

theorem isLeapYear_iff {year : Nat} : isLeapYear year = true ↔ IsLeap year := by
  simp only [isLeapYear, IsLeap, Bool.and_eq_true, Bool.or_eq_true, beq_iff_eq, bne_iff_ne,
    ← Nat.dvd_iff_mod_eq_zero, Ne, Decidable.imp_iff_not_or]

variable {year month month' day days : Nat}

theorem month_of_daysInMonth_pos (h : 0 < daysInMonth year month) : 1 ≤ month ∧ month ≤ 12 := by
  unfold daysInMonth at h
  split at h <;> omega

theorem monthHas_daysInMonth (h : 0 < daysInMonth year month) :
    MonthHas year month (daysInMonth year month) := by
  unfold daysInMonth at h ⊢
  split at h
  case h_2 =>
    show MonthHas year 2 (if isLeapYear year then 29 else 28)
    split
    · rename_i hleap
      exact .leapFebruary (isLeapYear_iff.1 hleap)
    · rename_i hleap
      exact .february (mt isLeapYear_iff.2 hleap)
  case h_13 => omega
  case h_4 | h_6 | h_9 | h_11 => exact .short (by decide)
  all_goals exact .long (by decide)

theorem MonthHas.eq_daysInMonth (h : MonthHas year month days) :
    days = daysInMonth year month := by
  cases h with
  | long hmonth =>
    simp only [List.mem_cons, List.not_mem_nil, or_false] at hmonth
    rcases hmonth with rfl | rfl | rfl | rfl | rfl | rfl | rfl <;> rfl
  | short hmonth =>
    simp only [List.mem_cons, List.not_mem_nil, or_false] at hmonth
    rcases hmonth with rfl | rfl | rfl | rfl <;> rfl
  | february hyear =>
    have hleap : isLeapYear year = false := Bool.eq_false_iff.2 (mt isLeapYear_iff.1 hyear)
    simp [daysInMonth, hleap]
  | leapFebruary hyear => simp [daysInMonth, isLeapYear_iff.2 hyear]

theorem MonthHas.le (h : MonthHas year month days) : days ≤ 31 := by
  cases h <;> omega

/-- The days that there are. -/
theorem isDate_iff : IsDate year month day ↔
    1 ≤ year ∧ year ≤ 9999 ∧ ∃ days, MonthHas year month days ∧ 1 ≤ day ∧ day ≤ days := by
  constructor
  · rintro ⟨hfirst, hlast, hday, hdays⟩
    exact ⟨hfirst, hlast, _, monthHas_daysInMonth (by omega), hday, hdays⟩
  · rintro ⟨hfirst, hlast, days, hmonth, hday, hdays⟩
    rw [hmonth.eq_daysInMonth] at hdays
    exact ⟨hfirst, hlast, hday, hdays⟩

/-- Every month has days. -/
theorem daysInMonth_pos (hfirst : 1 ≤ month) (hlast : month ≤ 12) : 0 < daysInMonth year month := by
  unfold daysInMonth
  split
  case h_2 => split <;> omega
  -- the month is none of the twelve
  case h_13 => grind
  all_goals omega

/-! ### Days before a month and before a year -/

theorem Date.daysBeforeMonth_succ (hmonth : 1 ≤ month) :
    daysBeforeMonth year (month + 1) = daysBeforeMonth year month + daysInMonth year month := by
  obtain ⟨m, rfl⟩ : ∃ m, month = m + 1 := ⟨month - 1, by omega⟩
  rfl

/-- A month is over before a later one begins. Induction on the later month. -/
theorem Date.daysBeforeMonth_le (hmonth : 1 ≤ month) (hlater : month < month') :
    daysBeforeMonth year month + daysInMonth year month ≤ daysBeforeMonth year month' := by
  induction hlater with
  | refl => exact Nat.le_of_eq (daysBeforeMonth_succ hmonth).symm
  | @step next hnext ih =>
    have hnext : month < next := hnext
    rw [daysBeforeMonth_succ (by omega)]
    omega

/-- The days of a year are those before a thirteenth month. -/
theorem Date.daysBeforeMonth_thirteen (year : Nat) :
    daysBeforeMonth year 13 = if isLeapYear year then 366 else 365 := by
  simp only [daysBeforeMonth, daysInMonth]
  split <;> rfl

/-- The closed form for the years goes up by the days of a year: each quotient in it goes up by one
where the next year is a multiple. -/
theorem Date.daysBeforeYear_succ (hyear : 1 ≤ year) :
    daysBeforeYear (year + 1) = daysBeforeYear year + daysBeforeMonth year 13 := by
  rw [daysBeforeMonth_thirteen]
  obtain ⟨past, rfl⟩ : ∃ past, year = past + 1 := ⟨year - 1, by omega⟩
  have hcenturies : past / 100 ≤ past / 4 := Nat.div_le_div_left (by decide) (by decide)
  have hperiod : 400 ∣ past + 1 → 100 ∣ past + 1 := Nat.dvd_trans (by decide)
  have hcentury : 100 ∣ past + 1 → 4 ∣ past + 1 := Nat.dvd_trans (by decide)
  simp only [daysBeforeYear, Nat.add_sub_cancel, Nat.succ_div, isLeapYear_iff, IsLeap]
  -- what is left is linear in the quotients
  generalize past / 4 = fourths at *
  generalize past / 100 = centuries at *
  by_cases h400 : 400 ∣ past + 1
  · simp only [h400, hperiod h400, hcentury (hperiod h400), implies_true, and_self, if_true]
    omega
  · by_cases h100 : 100 ∣ past + 1
    · simp only [h400, h100, hcentury h100, forall_const, and_false, if_true, if_false]
      omega
    · by_cases h4 : 4 ∣ past + 1
      · simp only [h400, h100, h4, false_implies, and_self, if_true, if_false]
        omega
      · simp only [h400, h100, h4, false_and, if_false]
        omega

/-- A year is over before a later one begins. Induction on the later year. -/
theorem Date.daysBeforeYear_le {year' : Nat} (hyear : 1 ≤ year) (hlater : year < year') :
    daysBeforeYear year + daysBeforeMonth year 13 ≤ daysBeforeYear year' := by
  induction hlater with
  | refl => exact Nat.le_of_eq (daysBeforeYear_succ hyear).symm
  | @step next hnext ih =>
    have hnext : year < next := hnext
    rw [daysBeforeYear_succ (by omega)]
    omega

namespace Date

variable {date next other : Date}

theorem month_le (date : Date) : 1 ≤ date.month ∧ date.month ≤ 12 := by
  obtain ⟨-, -, hday, hdays⟩ := date.isDate
  exact month_of_daysInMonth_pos (Nat.lt_of_lt_of_le hday hdays)

/-! ### The order of dates -/

/-- Whether a date is earlier than another: by the year, then by the month, then by the day. -/
def Before (date other : Date) : Prop :=
  date.year < other.year ∨ date.year = other.year ∧
    (date.month < other.month ∨ date.month = other.month ∧ date.day < other.day)

theorem before_or_eq_or_before (date other : Date) :
    date.Before other ∨ date = other ∨ other.Before date := by
  obtain ⟨year, month, day, _⟩ := date
  obtain ⟨year', month', day', _⟩ := other
  simp only [Before, mk.injEq]
  omega

/-- A date is within its month, and so within its year. -/
theorem dayOfYear_le (date : Date) :
    daysBeforeMonth date.year date.month + date.day ≤ daysBeforeMonth date.year 13 := by
  obtain ⟨hfirst, hlast⟩ := date.month_le
  obtain ⟨-, -, -, hdays⟩ := date.isDate
  have hthirteen : date.month < 13 := by omega
  have hover : daysBeforeMonth date.year date.month + daysInMonth date.year date.month ≤
      daysBeforeMonth date.year 13 := daysBeforeMonth_le hfirst hthirteen
  omega

theorem Before.ordinal_lt (h : date.Before other) : date.ordinal < other.ordinal := by
  obtain ⟨hyear, -, -, hdays⟩ := date.isDate
  obtain ⟨hfirst, -⟩ := date.month_le
  obtain ⟨-, -, hday', -⟩ := other.isDate
  unfold ordinal
  rcases h with hlater | ⟨hsame, hlater | ⟨hmonth, hlater⟩⟩
  · have hover := daysBeforeYear_le hyear hlater
    have hwithin := date.dayOfYear_le
    omega
  · have hover : daysBeforeMonth date.year date.month + daysInMonth date.year date.month ≤
        daysBeforeMonth date.year other.month := daysBeforeMonth_le hfirst hlater
    rw [← hsame]
    omega
  · rw [← hsame, ← hmonth]
    omega

theorem Before.year_le (h : date.Before other) : date.year ≤ other.year := by
  unfold Before at h
  omega

/-- **Places in the calendar are in the order of the dates.** -/
theorem ordinal_lt_iff : date.ordinal < other.ordinal ↔ date.Before other := by
  constructor
  · intro h
    rcases date.before_or_eq_or_before other with hbefore | rfl | hafter
    · exact hbefore
    · exact absurd h (Nat.lt_irrefl _)
    · have hlt := hafter.ordinal_lt
      omega
  · exact Before.ordinal_lt

theorem eq_of_ordinal_eq (h : date.ordinal = other.ordinal) : date = other := by
  rcases date.before_or_eq_or_before other with hbefore | heq | hafter
  · have hlt := hbefore.ordinal_lt
    omega
  · exact heq
  · have hlt := hafter.ordinal_lt
    omega

/-! ### From a day to the next -/

/-- Whether a date comes right after another. -/
inductive Next (date next : Date) : Prop
  | day (hyear : next.year = date.year) (hmonth : next.month = date.month)
      (hday : next.day = date.day + 1)
  | month (hlast : MonthHas date.year date.month date.day) (hyear : next.year = date.year)
      (hmonth : next.month = date.month + 1) (hday : next.day = 1)
  | year (hlast : date.month = 12 ∧ date.day = 31) (hyear : next.year = date.year + 1)
      (hmonth : next.month = 1) (hday : next.day = 1)

/-- **The next date has the next place.** -/
theorem Next.ordinal_eq (h : date.Next next) : next.ordinal = date.ordinal + 1 := by
  unfold ordinal
  cases h with
  | day hyear hmonth hday =>
    rw [hyear, hmonth, hday]
    omega
  | month hlast hyear hmonth hday =>
    rw [hyear, hmonth, hday, daysBeforeMonth_succ date.month_le.1, ← hlast.eq_daysInMonth]
    omega
  | year hlast hyear hmonth hday =>
    obtain ⟨hfirst, -⟩ := date.isDate
    obtain ⟨hdecember, hday'⟩ := hlast
    have hdays : daysBeforeMonth date.year 13 = daysBeforeMonth date.year 12 + 31 := rfl
    have hnone : daysBeforeMonth (date.year + 1) 1 = 0 := rfl
    rw [hyear, hmonth, hday, hdecember, hday', daysBeforeYear_succ hfirst, hdays, hnone]
    omega

/-- There is a next day, unless the years are over. -/
theorem exists_next (h : date.year < 9999) : ∃ next, date.Next next := by
  obtain ⟨year, month, day, hdate⟩ := date
  obtain ⟨hfirst, hlast, hday, hdays⟩ := hdate
  obtain ⟨hjanuary, hdecember⟩ := month_of_daysInMonth_pos (Nat.lt_of_lt_of_le hday hdays)
  rcases Nat.lt_or_eq_of_le hdays with hwithin | rfl
  · exact ⟨⟨year, month, day + 1, hfirst, hlast, by omega, hwithin⟩, .day rfl rfl rfl⟩
  · -- the month is over, and in December so is the year
    rcases Nat.lt_or_eq_of_le hdecember with hmonth | rfl
    · have hnext : 0 < daysInMonth year (month + 1) := daysInMonth_pos (by omega) (by omega)
      exact ⟨⟨year, month + 1, 1, hfirst, hlast, Nat.le_refl 1, hnext⟩,
        .month (monthHas_daysInMonth hday) rfl rfl rfl⟩
    · have hnext : 0 < daysInMonth (year + 1) 1 := daysInMonth_pos (by decide) (by decide)
      exact ⟨⟨year + 1, 1, 1, by omega, h, Nat.le_refl 1, hnext⟩, .year ⟨rfl, rfl⟩ rfl rfl rfl⟩

/-- There is a previous day, unless the years have not begun. -/
theorem exists_previous (h : 1 < date.year) : ∃ previous : Date, previous.Next date := by
  obtain ⟨year, month, day, hdate⟩ := date
  obtain ⟨hfirst, hlast, hday, hdays⟩ := hdate
  obtain ⟨hjanuary, hdecember⟩ := month_of_daysInMonth_pos (Nat.lt_of_lt_of_le hday hdays)
  rcases Nat.lt_or_eq_of_le hday with hwithin | rfl
  · obtain ⟨day, rfl⟩ : ∃ previous, day = previous + 1 := ⟨day - 1, by omega⟩
    exact ⟨⟨year, month, day, hfirst, hlast, by omega, by omega⟩, .day rfl rfl rfl⟩
  · -- the last day of the month before, which in January is in the year before
    rcases Nat.lt_or_eq_of_le hjanuary with hmonth | rfl
    · obtain ⟨month, rfl⟩ : ∃ previous, month = previous + 1 := ⟨month - 1, by omega⟩
      have hprevious : 0 < daysInMonth year month := daysInMonth_pos (by omega) (by omega)
      exact ⟨⟨year, month, daysInMonth year month, hfirst, hlast, hprevious, Nat.le_refl _⟩,
        .month (monthHas_daysInMonth hprevious) rfl rfl rfl⟩
    · obtain ⟨year, rfl⟩ : ∃ previous, year = previous + 1 := ⟨year - 1, by omega⟩
      have hyear : 1 ≤ year := Nat.le_of_lt_succ h
      exact ⟨⟨year, 12, 31, hyear, by omega, by decide, Nat.le_refl 31⟩,
        .year ⟨rfl, rfl⟩ rfl rfl rfl⟩

/-! ### Counting days -/

/-- A date is so many days after the epoch, or before it if the number is negative. -/
inductive CountsDays : Date → Int → Prop
  | epoch : CountsDays epoch 0
  | forward {date next : Date} {count : Int} (hnext : date.Next next) (h : CountsDays date count) :
      CountsDays next (count + 1)
  | back {date next : Date} {count : Int} (hnext : date.Next next) (h : CountsDays next count) :
      CountsDays date (count - 1)

theorem Next.daysSinceEpoch_eq (h : date.Next next) :
    next.daysSinceEpoch = date.daysSinceEpoch + 1 := by
  unfold daysSinceEpoch
  rw [h.ordinal_eq]
  omega

theorem CountsDays.eq_daysSinceEpoch {count : Int} (h : date.CountsDays count) :
    count = date.daysSinceEpoch := by
  induction h with
  | epoch => exact (Int.sub_self _).symm
  | forward hnext _ ih => rw [ih, hnext.daysSinceEpoch_eq]
  | back hnext _ ih => rw [ih, hnext.daysSinceEpoch_eq, Int.add_sub_cancel]

/-- Every date is reached from the epoch. Induction on the distance: a date after the epoch is
counted from the day before it, and a date before the epoch from the day after it. -/
theorem countsDays_daysSinceEpoch (date : Date) : date.CountsDays date.daysSinceEpoch := by
  induction hdistance : date.daysSinceEpoch.natAbs generalizing date with
  | zero =>
    have hzero : date.daysSinceEpoch = 0 := Int.natAbs_eq_zero.1 hdistance
    obtain rfl : date = epoch := eq_of_ordinal_eq (by unfold daysSinceEpoch at hzero; omega)
    rw [hzero]
    exact .epoch
  | succ distance ih =>
    -- the neighbour that is nearer to the epoch has the smaller distance
    rcases date.before_or_eq_or_before epoch with hbefore | rfl | hafter
    · have hyear : date.year < 9999 := Nat.lt_of_le_of_lt hbefore.year_le (by decide)
      obtain ⟨next, hnext⟩ := exists_next hyear
      have hneg : date.daysSinceEpoch < 0 := by
        unfold daysSinceEpoch
        have hlt := hbefore.ordinal_lt
        omega
      have hstep := hnext.daysSinceEpoch_eq
      have hback := CountsDays.back hnext (ih next (by omega))
      rwa [hstep, Int.add_sub_cancel] at hback
    · exact absurd hdistance (by simp [daysSinceEpoch])
    · have hyear : 1 < date.year := Nat.lt_of_lt_of_le (by decide) hafter.year_le
      obtain ⟨previous, hnext⟩ := exists_previous hyear
      have hpos : 0 < date.daysSinceEpoch := by
        unfold daysSinceEpoch
        have hlt := hafter.ordinal_lt
        omega
      have hstep := hnext.daysSinceEpoch_eq
      rw [hstep]
      exact .forward hnext (ih previous (by omega))

/-- **The closed form counts the days.** -/
theorem countsDays_iff {count : Int} : date.CountsDays count ↔ count = date.daysSinceEpoch := by
  constructor
  · exact CountsDays.eq_daysSinceEpoch
  · rintro rfl
    exact date.countsDays_daysSinceEpoch

end Date

end MailSearch.Calendar
