/-
  File:      OpenerPolicy/Proofs/Time/Days.lean
  Subject:   DAY NUMBERS AND DATES ARE IN STEP.

  The date of a day number is found by division, first into cycles of 400 years, then centuries, spans
  of four years, years and months; the number of a date is counted up from the lengths of the years
  and months before it. Either goes with the other: the date that is found is one of the calendar, and
  counting gives the day number back, on the whole line of days. Later dates have greater numbers.

  * `monthLength`, `Date.Valid` -- dates of the calendar;
  * `monthOf_spec`, `yearOf_spec` -- what is found for a day of a year and for a day of a cycle;
  * **`Date.valid_ofDay`**, **`Date.toDay_ofDay`** -- the date of a day number;
  * `daysBeforeYear_succ`, `daysBeforeYear_mono`, `Date.Valid.toDay_mem_year` -- the days of a year;
  * **`Date.Valid.toDay_lt`** -- the order of dates is that of their day numbers.
-/
import OpenerPolicy.Time.Calendar

namespace OpenerPolicy.Time

/-! ## 1. Dates of the calendar -/

/-- The number of days of a month; months are counted from 1. -/
def monthLength (year : Int) (month : Nat) : Nat := (monthLengths (isLeap year)).getD (month - 1) 0

/-- **A date of the calendar.** -/
structure Date.Valid (d : Date) : Prop where
  month_pos : 1 ≤ d.month
  month_le : d.month ≤ 12
  day_pos : 1 ≤ d.day
  day_le : d.day ≤ monthLength d.year d.month

/-! ## 2. Days and months -/

theorem getD_le_of_forall {lengths : List Nat} {most : Nat} (h : ∀ n ∈ lengths, n ≤ most) (n : Nat) :
    lengths.getD n 0 ≤ most := by
  induction lengths generalizing n with
  | nil => exact Nat.zero_le most
  | cons length rest ih =>
    obtain ⟨hlength, hrest⟩ := List.forall_mem_cons.1 h
    cases n with
    | zero => exact hlength
    | succ n => exact ih hrest n

theorem monthLength_le (year : Int) (month : Nat) : monthLength year month ≤ 31 := by
  refine getD_le_of_forall ?_ _
  cases isLeap year <;> decide

theorem daysOf_take_succ (lengths : List Nat) (n : Nat) :
    daysOf (lengths.take (n + 1)) = daysOf (lengths.take n) + lengths.getD n 0 := by
  induction lengths generalizing n with
  | nil => simp [daysOf]
  | cons length rest ih =>
    cases n with
    | zero => exact Nat.add_comm length 0
    | succ n =>
      show length + daysOf (rest.take (n + 1)) = length + daysOf (rest.take n) + rest.getD n 0
      rw [ih, Nat.add_assoc]

theorem daysOf_take_mono (lengths : List Nat) {m n : Nat} (h : m ≤ n) :
    daysOf (lengths.take m) ≤ daysOf (lengths.take n) := by
  induction h with
  | refl => exact Nat.le_refl _
  | step _ ih =>
    rw [daysOf_take_succ]
    exact Nat.le_add_right_of_le ih

/-- **The month that is found** holds the day, and the months before it make up the rest. -/
theorem monthOf_spec {lengths : List Nat} {day : Nat} (h : day < daysOf lengths) :
    (monthOf lengths day).1 < lengths.length ∧
      (monthOf lengths day).2 < lengths.getD (monthOf lengths day).1 0 ∧
      daysOf (lengths.take (monthOf lengths day).1) + (monthOf lengths day).2 = day := by
  induction lengths generalizing day with
  | nil => exact absurd h (Nat.not_lt_zero day)
  | cons length rest ih =>
    rw [monthOf]
    split
    · next hday => exact ⟨Nat.zero_lt_succ _, hday, Nat.zero_add day⟩
    · next hday =>
      have hle : length ≤ day := Nat.le_of_not_lt hday
      have hrest : day - length < daysOf rest := Nat.sub_lt_left_of_lt_add hle h
      obtain ⟨hmonth, hin, hsum⟩ := ih hrest
      refine ⟨Nat.succ_lt_succ hmonth, hin, ?_⟩
      show length + daysOf (rest.take (monthOf rest (day - length)).1)
        + (monthOf rest (day - length)).2 = day
      rw [Nat.add_assoc, hsum, Nat.add_sub_cancel' hle]

/-! ## 3. Days and years -/

/-- The number of days of a year. -/
def yearLength (year : Int) : Nat := daysOf (monthLengths (isLeap year))

theorem isLeap_iff (year : Int) :
    isLeap year = true ↔ year % 4 = 0 ∧ (year % 100 ≠ 0 ∨ year % 400 = 0) := by
  simp [isLeap]

/-- A year has one day more exactly if it is a leap year. -/
theorem yearLength_cases (year : Int) :
    isLeap year = true ∧ yearLength year = 366 ∨ isLeap year = false ∧ yearLength year = 365 := by
  rw [yearLength, sum_monthLengths]
  cases isLeap year
  · exact Or.inr ⟨rfl, rfl⟩
  · exact Or.inl ⟨rfl, rfl⟩

theorem daysBeforeYear_eq (year : Int) :
    daysBeforeYear year
      = 365 * (year - 1) + (year - 1) / 4 - (year - 1) / 100 + (year - 1) / 400 := rfl

/-- **The next year begins when this one is over.** -/
theorem daysBeforeYear_succ (year : Int) :
    daysBeforeYear (year + 1) = daysBeforeYear year + yearLength year := by
  have hleap := isLeap_iff year
  rw [daysBeforeYear_eq, daysBeforeYear_eq]
  rcases yearLength_cases year with ⟨hyear, hlength⟩ | ⟨hyear, hlength⟩
  · have hrule := hleap.1 hyear
    rw [hlength]
    omega
  · have hrule : ¬ (year % 4 = 0 ∧ (year % 100 ≠ 0 ∨ year % 400 = 0)) := by
      rw [← hleap, hyear]
      exact Bool.false_ne_true
    rw [hlength]
    omega

theorem daysBeforeYear_mono {year later : Int} (h : year ≤ later) :
    daysBeforeYear year ≤ daysBeforeYear later := by
  rw [daysBeforeYear_eq, daysBeforeYear_eq]
  omega

/-- A day of a cycle by centuries, spans of four years, years and days. Only a fourth year can have a
    day of number 365, and the last one of a century only at the end of the cycle. -/
theorem yearOf_digits {day : Nat} (h : day < daysIn400Years) :
    ∃ centuries fours years rest, yearOf day = (100 * centuries + 4 * fours + years, rest) ∧
      day = 36524 * centuries + 1461 * fours + 365 * years + rest ∧
      centuries ≤ 3 ∧ fours ≤ 24 ∧ years ≤ 3 ∧ rest ≤ 365 ∧
      (rest = 365 → years = 3 ∧ (fours = 24 → centuries = 3)) := by
  unfold daysIn400Years at h
  refine ⟨_, _, _, _, rfl, ?_⟩
  unfold daysIn100Years daysIn4Years
  generalize hcenturies : min (day / 36524) 3 = centuries
  have hcentury : 36524 * centuries ≤ day ∧ day - centuries * 36524 ≤ 36524 ∧
      (centuries < 3 → day - centuries * 36524 < 36524) := by omega
  generalize hin : day - centuries * 36524 = inCentury at hcentury
  generalize hfours : inCentury / 1461 = fours
  generalize hfour : inCentury % 1461 = inFour
  generalize hyears : min (inFour / 365) 3 = years
  omega

/-- **The year that is found** holds the day, and the years before it make up the rest. -/
theorem yearOf_spec {day : Nat} (h : day < daysIn400Years) (cycle : Int) :
    let year := 400 * cycle + (yearOf day).1 + 1
    (yearOf day).2 < yearLength year ∧
      daysBeforeYear year + (yearOf day).2 = cycle * daysIn400Years + day := by
  obtain ⟨centuries, fours, years, rest, hyear, hday, hcenturies, hfours, hyears, hrest, hlast⟩ :=
    yearOf_digits h
  rw [hyear, hday]
  intro year
  have hyear : year = 400 * cycle + (100 * centuries + 4 * fours + years) + 1 := by
    show 400 * cycle + ((100 * centuries + 4 * fours + years : Nat) : Int) + 1 = _
    omega
  have hleap := isLeap_iff year
  have hlength := yearLength_cases year
  constructor
  · show rest < yearLength year
    rcases hlength with ⟨-, hlength⟩ | ⟨hyear', hlength⟩
    · omega
    · have hrule : ¬ (year % 4 = 0 ∧ (year % 100 ≠ 0 ∨ year % 400 = 0)) := by
        rw [← hleap, hyear']
        exact Bool.false_ne_true
      omega
  · rw [daysBeforeYear_eq]
    show _ + (rest : Int) = _
    unfold daysIn400Years
    omega

/-! ## 4. The date of a day number -/

namespace Date

theorem toDay_eq (d : Date) :
    d.toDay = daysBeforeYear d.year + daysOf ((monthLengths (isLeap d.year)).take (d.month - 1))
      + (d.day - 1) := rfl

/-- **The date of a day number is one of the calendar, and has that number.** -/
theorem ofDay_spec (day : Int) : (ofDay day).Valid ∧ (ofDay day).toDay = day := by
  have hcycle : (day % daysIn400Years).toNat < daysIn400Years := by
    unfold daysIn400Years
    omega
  have hsplit : day / daysIn400Years * daysIn400Years + ((day % daysIn400Years).toNat : Int) = day := by
    unfold daysIn400Years
    omega
  unfold ofDay
  generalize (day % daysIn400Years).toNat = dayInCycle at hcycle hsplit ⊢
  generalize day / (daysIn400Years : Int) = cycle at hsplit ⊢
  obtain ⟨hin, hbefore⟩ := yearOf_spec hcycle cycle
  generalize yearOf dayInCycle = found at hin hbefore ⊢
  obtain ⟨yearInCycle, dayOfYear⟩ := found
  dsimp only at hin hbefore ⊢
  generalize 400 * cycle + (yearInCycle : Int) + 1 = year at hin hbefore ⊢
  obtain ⟨hmonth, hday, hsum⟩ := monthOf_spec hin
  generalize monthOf (monthLengths (isLeap year)) dayOfYear = place at hmonth hday hsum ⊢
  obtain ⟨months, dayOfMonth⟩ := place
  dsimp only at hmonth hday hsum ⊢
  refine ⟨⟨Nat.le_add_left 1 _, hmonth, Nat.le_add_left 1 _, hday⟩, ?_⟩
  rw [toDay_eq]
  dsimp only
  rw [Nat.add_sub_cancel]
  omega

theorem valid_ofDay (day : Int) : (ofDay day).Valid := (ofDay_spec day).1

@[simp] theorem toDay_ofDay (day : Int) : (ofDay day).toDay = day := (ofDay_spec day).2

/-! ## 5. The order of dates -/

/-- The days of a year up to a date, itself not included, and those of its month. -/
theorem Valid.daysOf_month_le {d : Date} (h : d.Valid) :
    daysOf ((monthLengths (isLeap d.year)).take (d.month - 1)) + d.day
      ≤ daysOf ((monthLengths (isLeap d.year)).take d.month) := by
  have hmonth : d.month = d.month - 1 + 1 := (Nat.sub_add_cancel h.month_pos).symm
  rw [hmonth, daysOf_take_succ, Nat.add_sub_cancel]
  exact Nat.add_le_add_left h.day_le _

/-- **The days of a year** are those from its first day on and before the first day of the next. -/
theorem Valid.toDay_mem_year {d : Date} (h : d.Valid) :
    daysBeforeYear d.year ≤ d.toDay ∧ d.toDay < daysBeforeYear (d.year + 1) := by
  have hmonth := h.daysOf_month_le
  have hyear : daysOf ((monthLengths (isLeap d.year)).take d.month) ≤ yearLength d.year := by
    have hmono := daysOf_take_mono (monthLengths (isLeap d.year)) h.month_le
    rwa [show (monthLengths (isLeap d.year)).take 12 = monthLengths (isLeap d.year) from rfl] at hmono
  have hpos := h.day_pos
  rw [toDay_eq, daysBeforeYear_succ]
  omega

/-- A day between the first days of two years is in one of the years between them. -/
theorem year_ofDay_mem {first last day : Int} (hfirst : daysBeforeYear first ≤ day)
    (hlast : day < daysBeforeYear last) : first ≤ (ofDay day).year ∧ (ofDay day).year < last := by
  obtain ⟨hyear, hnext⟩ := (valid_ofDay day).toDay_mem_year
  rw [toDay_ofDay] at hyear hnext
  constructor
  · refine Int.not_lt.1 fun hbefore => ?_
    have hmono := daysBeforeYear_mono (Int.add_one_le_of_lt hbefore)
    omega
  · refine Int.not_le.1 fun hafter => ?_
    have hmono := daysBeforeYear_mono hafter
    omega

/-- **Later dates have greater numbers.** -/
theorem Valid.toDay_lt {d e : Date} (hd : d.Valid) (he : e.Valid)
    (h : d.year < e.year ∨ d.year = e.year ∧ (d.month < e.month ∨ d.month = e.month ∧ d.day < e.day)) :
    d.toDay < e.toDay := by
  rcases h with hyear | ⟨hyear, hmonth | ⟨hmonth, hday⟩⟩
  · calc d.toDay < daysBeforeYear (d.year + 1) := hd.toDay_mem_year.2
      _ ≤ daysBeforeYear e.year := daysBeforeYear_mono hyear
      _ ≤ e.toDay := he.toDay_mem_year.1
  · have hbefore := daysOf_take_mono (monthLengths (isLeap e.year)) (Nat.le_sub_one_of_lt hmonth)
    have hin := hd.daysOf_month_le
    have hpos := he.day_pos
    rw [← hyear] at hbefore
    rw [toDay_eq, toDay_eq, ← hyear]
    omega
  · rw [toDay_eq, toDay_eq, hyear, hmonth]
    omega

end Date

end OpenerPolicy.Time
