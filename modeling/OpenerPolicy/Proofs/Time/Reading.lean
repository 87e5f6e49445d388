/-
  File:      OpenerPolicy/Proofs/Time/Reading.lean
  Subject:   TIMESTAMPS ARE READ BACK, AND THEIR TEXTS ARE IN THE ORDER OF TIME.

  The text of a timestamp has seven numbers of a fixed number of digits each, with a sign of its own
  after each of them. A reader that knows no more than that gets back the date and the time of day, and
  counting the days gives the milliseconds since the start of 1970. Since the widths are fixed and the
  numbers go from years to milliseconds, texts are compared as the instants they stand for.

  * `layout`, `readFields` -- the form `YYYY-MM-DDTHH:MM:SS.mmmZ`, and the numbers of a text of that form;
  * `Moment`, `Moment.read?`, `Moment.Valid`, `Moment.instant` -- a date and a time of day, from a text,
    of the calendar, and in milliseconds since the start of 1970;
  * `readFields_padded`, `readFields_lt` -- numbers that are written with leading zeros are read back,
    and texts are compared as their numbers;
  * **`tells_ofMillis`** -- the text of a timestamp tells its instant;
  * **`Tells.le`** -- the order of texts is that of the instants they tell;
  * `timestamp_of_micros` -- every reading within the years 1 to 9999 has a timestamp of the calendar.
-/
import OpenerPolicy.Proofs.Time.Days
import OpenerPolicy.Time.Timestamp

namespace OpenerPolicy.Time

open Number

/-! ## 1. Numbers of fixed width -/

/-- The numbers of a timestamp: how many digits each of them has, and the sign after it. -/
def layout : List (Nat × Char) :=
  [(4, '-'), (2, '-'), (2, 'T'), (2, ':'), (2, ':'), (2, '.'), (3, 'Z')]

/-- **The numbers of a text** in which each has a given number of digits and a given sign after it; none
    if the text is not of this form. -/
def readFields : List (Nat × Char) → List Char → Option (List Nat)
  | [], [] => some []
  | [], _ :: _ => none
  | (width, sign) :: rest, text =>
    match text.drop width with
    | [] => none
    | c :: more =>
      if c = sign ∧ (text.take width).all Char.isDigit = true then
        (readFields rest more).map (Nat.ofDigitChars 10 (text.take width) 0 :: ·)
      else none

/-- A text has the form exactly if it starts with the digits of a number and its sign, and goes on as
    the other numbers require. -/
theorem readFields_cons_iff {width : Nat} {sign : Char} {rest : List (Nat × Char)} {text : List Char}
    {numbers : List Nat} :
    readFields ((width, sign) :: rest) text = some numbers ↔
      ∃ digits more others, text = digits ++ sign :: more ∧ digits.length = width ∧
        (∀ c ∈ digits, c.isDigit = true) ∧ readFields rest more = some others ∧
        numbers = Nat.ofDigitChars 10 digits 0 :: others := by
  rw [readFields]
  constructor
  · intro h
    split at h
    · cases h
    · next c more hdrop =>
      split at h
      · next hform =>
        obtain ⟨others, hothers, rfl⟩ := Option.map_eq_some_iff.1 h
        refine ⟨text.take width, more, others, ?_, ?_, List.all_eq_true.1 hform.2, hothers, rfl⟩
        · rw [← hform.1, ← hdrop, List.take_append_drop]
        · have hlength := congrArg List.length hdrop
          rw [List.length_drop, List.length_cons] at hlength
          rw [List.length_take]
          omega
      · cases h
  · rintro ⟨digits, more, others, rfl, rfl, hdigits, hothers, rfl⟩
    rw [List.drop_left, List.take_left]
    dsimp only
    rw [if_pos ⟨rfl, List.all_eq_true.2 hdigits⟩, hothers]
    rfl

theorem length_of_readFields {fields : List (Nat × Char)} {text : List Char} {numbers : List Nat}
    (h : readFields fields text = some numbers) :
    text.length = fields.foldr (fun field length => field.1 + 1 + length) 0 := by
  induction fields generalizing text numbers with
  | nil =>
    cases text with
    | nil => rfl
    | cons c more => cases h
  | cons field rest ih =>
    obtain ⟨digits, more, others, rfl, hlength, -, hothers, -⟩ := readFields_cons_iff.1 h
    rw [List.length_append, List.length_cons, ih hothers, hlength, List.foldr_cons]
    omega

/-! ## 2. Leading zeros -/

theorem toList_padded (width n : Nat) :
    (padded width n).toList
      = List.replicate (width - (digitChars n).length) '0' ++ digitChars n := by
  rw [padded, String.toList_ofList]

/-- **A number that is not too large is written with all its digits**, and has the same value with zeros
    before them. -/
theorem padded_spec {width n : Nat} (hwidth : 0 < width) (h : n < Nat.pow 10 width) :
    (padded width n).toList.length = width ∧ (∀ c ∈ (padded width n).toList, c.isDigit = true) ∧
      Nat.ofDigitChars 10 (padded width n).toList 0 = n := by
  have hlength : (digitChars n).length ≤ width :=
    (Nat.length_toDigits_le_iff (by decide) hwidth).2 h
  rw [toList_padded]
  refine ⟨?_, fun c hc => ?_, ?_⟩
  · rw [List.length_append, List.length_replicate, Nat.sub_add_cancel hlength]
  · rcases List.mem_append.1 hc with hzero | hdigit
    · rw [List.eq_of_mem_replicate hzero]
      rfl
    · exact Nat.isDigit_of_mem_toDigits (by decide) (by decide) hdigit
  · rw [Nat.ofDigitChars_append, Nat.ofDigitChars_replicate_zero, Nat.mul_zero]
    exact Nat.ofDigitChars_ten_toDigits

/-- **Numbers that are written with leading zeros are read back.** -/
theorem readFields_padded {width n : Nat} (hwidth : 0 < width) (h : n < Nat.pow 10 width) (sign : Char)
    {rest : List (Nat × Char)} {more : List Char} {others : List Nat}
    (hothers : readFields rest more = some others) :
    readFields ((width, sign) :: rest) ((padded width n).toList ++ sign :: more)
      = some (n :: others) := by
  obtain ⟨hlength, hdigits, hvalue⟩ := padded_spec hwidth h
  exact readFields_cons_iff.2 ⟨_, more, others, rfl, hlength, hdigits, hothers, by rw [hvalue]⟩

/-! ## 3. The order of numbers -/

theorem toNat_of_isDigit {c : Char} (h : c.isDigit = true) : 48 ≤ c.toNat ∧ c.toNat ≤ 57 := by
  simp only [Char.isDigit, Bool.and_eq_true, decide_eq_true_eq] at h
  exact h

/-- A smaller number stays smaller, whatever digits are added to both. -/
theorem ofDigitChars_lt_of_init {a b : List Char} (hlength : a.length = b.length)
    (ha : ∀ c ∈ a, c.isDigit = true) {i j : Nat} (h : i < j) :
    Nat.ofDigitChars 10 a i < Nat.ofDigitChars 10 b j := by
  induction a generalizing b i j with
  | nil =>
    obtain rfl := List.length_eq_zero_iff.1 hlength.symm
    exact h
  | cons c a ih =>
    cases b with
    | nil => cases hlength
    | cons d b =>
      obtain ⟨hc, ha⟩ := List.forall_mem_cons.1 ha
      have hdigit := toNat_of_isDigit hc
      rw [Nat.ofDigitChars_cons, Nat.ofDigitChars_cons]
      refine ih (Nat.succ.inj hlength) ha ?_
      show 10 * i + (c.toNat - 48) < 10 * j + (d.toNat - 48)
      omega

/-- **As many digits are compared as their numbers.** -/
theorem ofDigitChars_lt {a b : List Char} (hlength : a.length = b.length)
    (ha : ∀ c ∈ a, c.isDigit = true) (h : a < b) (i : Nat) :
    Nat.ofDigitChars 10 a i < Nat.ofDigitChars 10 b i := by
  induction a generalizing b i with
  | nil =>
    obtain rfl := List.length_eq_zero_iff.1 hlength.symm
    exact absurd h (List.lt_irrefl [])
  | cons c a ih =>
    cases b with
    | nil => cases hlength
    | cons d b =>
      obtain ⟨hc, ha⟩ := List.forall_mem_cons.1 ha
      have hrest : a.length = b.length := Nat.succ.inj hlength
      rw [Nat.ofDigitChars_cons, Nat.ofDigitChars_cons]
      rcases List.cons_lt_cons_iff.1 h with hless | ⟨rfl, hmore⟩
      · have hdigit := toNat_of_isDigit hc
        have hless : c.toNat < d.toNat := hless
        refine ofDigitChars_lt_of_init hrest ha ?_
        show 10 * i + (c.toNat - 48) < 10 * i + (d.toNat - 48)
        omega
      · exact ih hrest ha hmore _

/-- Lists that start with as many elements are compared by these first. -/
theorem lt_or_lt_of_append_lt {a b more more' : List Char} (hlength : a.length = b.length)
    (h : a ++ more < b ++ more') : a < b ∨ a = b ∧ more < more' := by
  induction a generalizing b with
  | nil =>
    obtain rfl := List.length_eq_zero_iff.1 hlength.symm
    exact Or.inr ⟨rfl, h⟩
  | cons c a ih =>
    cases b with
    | nil => cases hlength
    | cons d b =>
      rcases List.cons_lt_cons_iff.1 h with hless | ⟨rfl, hmore⟩
      · exact Or.inl (List.cons_lt_cons_iff.2 (Or.inl hless))
      · rcases ih (Nat.succ.inj hlength) hmore with hless | ⟨rfl, hrest⟩
        · exact Or.inl (List.cons_lt_cons_iff.2 (Or.inr ⟨rfl, hless⟩))
        · exact Or.inr ⟨rfl, hrest⟩

/-- **Texts of one form are compared as their numbers.** -/
theorem readFields_lt {fields : List (Nat × Char)} {text text' : List Char} {numbers numbers' : List Nat}
    (h : readFields fields text = some numbers) (h' : readFields fields text' = some numbers')
    (hlt : text < text') : numbers < numbers' := by
  induction fields generalizing text text' numbers numbers' with
  | nil =>
    cases text with
    | cons c more => cases h
    | nil =>
      cases text' with
      | cons c more => cases h'
      | nil => exact absurd hlt (List.lt_irrefl [])
  | cons field rest ih =>
    obtain ⟨digits, more, others, rfl, hlength, hdigits, hothers, rfl⟩ := readFields_cons_iff.1 h
    obtain ⟨digits', more', others', rfl, hlength', -, hothers', rfl⟩ := readFields_cons_iff.1 h'
    have hsame : digits.length = digits'.length := hlength.trans hlength'.symm
    rw [List.cons_lt_cons_iff]
    rcases lt_or_lt_of_append_lt hsame hlt with hless | ⟨rfl, hmore⟩
    · exact Or.inl (ofDigitChars_lt hsame hdigits hless 0)
    · rcases List.cons_lt_cons_iff.1 hmore with hsign | ⟨-, hmore⟩
      · exact absurd hsign (Char.lt_irrefl field.2)
      · exact Or.inr ⟨rfl, ih hothers hothers' hmore⟩

/-! ## 4. Moments -/

/-- A date and a time of day, as a text gives them. -/
structure Moment where
  year : Nat
  month : Nat
  day : Nat
  hour : Nat
  minute : Nat
  second : Nat
  milli : Nat
  deriving DecidableEq, Repr

namespace Moment

def numbers (m : Moment) : List Nat := [m.year, m.month, m.day, m.hour, m.minute, m.second, m.milli]

/-- **The moment that a text gives**, if it has the form `YYYY-MM-DDTHH:MM:SS.mmmZ`. -/
def read? (text : String) : Option Moment :=
  match readFields layout text.toList with
  | some [year, month, day, hour, minute, second, milli] =>
    some ⟨year, month, day, hour, minute, second, milli⟩
  | _ => none

theorem read?_eq_some_iff {text : String} {m : Moment} :
    read? text = some m ↔ readFields layout text.toList = some m.numbers := by
  constructor
  · intro h
    unfold read? at h
    split at h
    · next hnumbers =>
      obtain rfl := Option.some.inj h
      exact hnumbers
    · cases h
  · intro h
    rw [read?, h]
    rfl

def date (m : Moment) : Date := ⟨m.year, m.month, m.day⟩

/-- Milliseconds since midnight. -/
def millis (m : Moment) : Nat := 3600000 * m.hour + 60000 * m.minute + 1000 * m.second + m.milli

/-- **A date of the calendar, in years of four digits, and a time of day.** -/
structure Valid (m : Moment) : Prop where
  year_pos : 1 ≤ m.year
  year_le : m.year ≤ 9999
  date : m.date.Valid
  hour_lt : m.hour < 24
  minute_lt : m.minute < 60
  second_lt : m.second < 60
  milli_lt : m.milli < 1000

/-- **Milliseconds since the start of 1970**, negative before it. -/
def instant (m : Moment) : Int := (m.date.toDay - epochDay) * millisPerDay + m.millis

example : instant ⟨1970, 1, 1, 0, 0, 0, 0⟩ = 0 := rfl

/-- A time of day is less than a day. -/
theorem Valid.millis_lt {m : Moment} (h : m.Valid) : m.millis < 86400000 := by
  obtain ⟨-, -, -, hhour, hminute, hsecond, hmilli⟩ := h
  unfold millis
  omega

/-- **Moments are in the order of their numbers.** -/
theorem Valid.instant_lt {m m' : Moment} (h : m.Valid) (h' : m'.Valid) (hlt : m.numbers < m'.numbers) :
    m.instant < m'.instant := by
  have hmillis := h.millis_lt
  simp only [numbers, List.cons_lt_cons_iff, List.lt_irrefl, and_false, or_false] at hlt
  -- either the date is earlier, or it is the same and the time of day is earlier
  by_cases hdate : m.year = m'.year ∧ m.month = m'.month ∧ m.day = m'.day
  · obtain ⟨hyear, hmonth, hday⟩ := hdate
    have hsame : m.date = m'.date := by
      rw [Moment.date, Moment.date, hyear, hmonth, hday]
    obtain ⟨-, -, -, -, hminute, hsecond, hmilli⟩ := h
    unfold instant millis
    rw [hsame]
    omega
  · have hearlier : m.date.toDay < m'.date.toDay := by
      refine h.date.toDay_lt h'.date ?_
      show (m.year : Int) < m'.year ∨ (m.year : Int) = m'.year ∧
        (m.month < m'.month ∨ m.month = m'.month ∧ m.day < m'.day)
      omega
    unfold instant millisPerDay
    omega

end Moment

/-- **A text tells an instant**: it has the form of a timestamp, gives a date of the calendar and a time
    of day, and these are that many milliseconds after the start of 1970. -/
def Tells (text : String) (instant : Int) : Prop :=
  ∃ m, Moment.read? text = some m ∧ m.Valid ∧ m.instant = instant

/-- **The order of texts is that of the instants they tell.** -/
theorem Tells.le {text text' : String} {instant instant' : Int} (h : Tells text instant)
    (h' : Tells text' instant') (hle : instant ≤ instant') : text ≤ text' := by
  obtain ⟨m, hread, hvalid, rfl⟩ := h
  obtain ⟨m', hread', hvalid', rfl⟩ := h'
  refine String.not_lt.1 fun hlt => ?_
  have hnumbers := readFields_lt (Moment.read?_eq_some_iff.1 hread') (Moment.read?_eq_some_iff.1 hread)
    hlt
  exact Int.not_lt.2 hle (hvalid'.instant_lt hvalid hnumbers)

theorem Tells.length_eq {text : String} {instant : Int} (h : Tells text instant) : text.length = 24 := by
  obtain ⟨m, hread, -, -⟩ := h
  exact length_of_readFields (Moment.read?_eq_some_iff.1 hread)

/-! ## 5. Timestamps -/

namespace Timestamp

/-- The moment of a timestamp. -/
def moment (t : Timestamp) : Moment :=
  ⟨t.date.year.toNat, t.date.month, t.date.day, t.millis / 3600000, t.millis / 60000 % 60,
    t.millis / 1000 % 60, t.millis % 1000⟩

/-- **A timestamp of the calendar, in years of four digits.** -/
structure Valid (t : Timestamp) : Prop where
  year_pos : 1 ≤ t.date.year
  year_le : t.date.year ≤ 9999
  date : t.date.Valid
  millis_lt : t.millis < 86400000

variable {t : Timestamp}

theorem toList_text (t : Timestamp) :
    t.text.toList = (padded 4 t.moment.year).toList ++ '-' :: ((padded 2 t.moment.month).toList ++ '-' ::
      ((padded 2 t.moment.day).toList ++ 'T' :: ((padded 2 t.moment.hour).toList ++ ':' ::
        ((padded 2 t.moment.minute).toList ++ ':' :: ((padded 2 t.moment.second).toList ++ '.' ::
          ((padded 3 t.moment.milli).toList ++ ['Z'])))))) := by
  simp [text, moment]

theorem Valid.moment_date (h : t.Valid) : t.moment.date = t.date := by
  have hyear := h.year_pos
  rw [Moment.date, moment]
  have hcast : (t.date.year.toNat : Int) = t.date.year := Int.toNat_of_nonneg (by omega)
  rw [hcast]

theorem Valid.moment (h : t.Valid) : t.moment.Valid := by
  have hyear : 1 ≤ t.date.year.toNat ∧ t.date.year.toNat ≤ 9999 := by
    have := h.year_pos
    have := h.year_le
    omega
  have hmillis := h.millis_lt
  refine ⟨hyear.1, hyear.2, h.moment_date ▸ h.date, ?_, ?_, ?_, ?_⟩ <;> simp only [Timestamp.moment] <;>
    omega

theorem Valid.calendarHolds (h : t.Valid) : calendarHolds t.date.year = true := by
  have hpos := h.year_pos
  have hle := h.year_le
  have hpow : Nat.pow 2 31 = 2147483648 := rfl
  simp only [Time.calendarHolds, hpow, Bool.and_eq_true, decide_eq_true_eq]
  omega

/-- **The text of a timestamp gives its moment.** -/
theorem Valid.read?_text (h : t.Valid) : Moment.read? t.text = some t.moment := by
  obtain ⟨-, hyear, -, hhour, hminute, hsecond, hmilli⟩ := h.moment
  have hmonth : t.moment.month ≤ 12 := h.date.month_le
  have hday : t.moment.day ≤ 31 := Nat.le_trans h.date.day_le (monthLength_le _ _)
  rw [Moment.read?_eq_some_iff, toList_text, layout, Moment.numbers]
  refine readFields_padded (by decide) (Nat.lt_of_le_of_lt hyear (by decide)) '-' ?_
  refine readFields_padded (by decide) (Nat.lt_of_le_of_lt hmonth (by decide)) '-' ?_
  refine readFields_padded (by decide) (Nat.lt_of_le_of_lt hday (by decide)) 'T' ?_
  refine readFields_padded (by decide) (Nat.lt_of_lt_of_le hhour (by decide)) ':' ?_
  refine readFields_padded (by decide) (Nat.lt_of_lt_of_le hminute (by decide)) ':' ?_
  refine readFields_padded (by decide) (Nat.lt_of_lt_of_le hsecond (by decide)) '.' ?_
  exact readFields_padded (by decide) (Nat.lt_of_lt_of_le hmilli (by decide)) 'Z' rfl

/-- The hours, minutes, seconds and milliseconds make up the time of day. -/
theorem millis_moment (t : Timestamp) : t.moment.millis = t.millis := by
  simp only [Moment.millis, moment]
  omega

/-- **The text of a timestamp tells its instant**: the milliseconds it was made from. -/
theorem tells_ofMillis {millis : Int} (h : (ofMillis millis).Valid) :
    Tells (ofMillis millis).text millis := by
  refine ⟨_, h.read?_text, h.moment, ?_⟩
  rw [Moment.instant, h.moment_date, millis_moment]
  show ((Date.ofDay (epochDay + millis / millisPerDay)).toDay - epochDay) * millisPerDay
    + ((millis % millisPerDay).toNat : Int) = millis
  rw [Date.toDay_ofDay]
  unfold millisPerDay
  omega

end Timestamp

/-! ## 6. Clock readings -/

/-- Microseconds since the start of 1970 at the start of a year. -/
def startOfYear (year : Int) : Int := (daysBeforeYear year - epochDay) * millisPerDay * 1000

/-- **A reading within years of four digits has a timestamp**, that of its whole milliseconds. -/
theorem timestamp_of_micros {c : Clock} {micros : Int} (hmicros : c.micros = .ok micros)
    (hfirst : startOfYear 1 ≤ micros) (hlast : micros < startOfYear 10000) :
    timestamp c = .ok (.ofMillis (micros / 1000)) ∧ (Timestamp.ofMillis (micros / 1000)).Valid := by
  have hday : daysBeforeYear 1 ≤ epochDay + micros / 1000 / millisPerDay ∧
      epochDay + micros / 1000 / millisPerDay < daysBeforeYear 10000 := by
    unfold startOfYear millisPerDay at *
    omega
  obtain ⟨hyear, hyear'⟩ := Date.year_ofDay_mem hday.1 hday.2
  have hvalid : (Timestamp.ofMillis (micros / 1000)).Valid := by
    refine ⟨hyear, Int.le_of_lt_add_one hyear', Date.valid_ofDay _, ?_⟩
    show (micros / 1000 % millisPerDay).toNat < 86400000
    unfold millisPerDay
    omega
  refine ⟨?_, hvalid⟩
  have hrange : ¬ ((Timestamp.ofMillis (micros / 1000)).date.year < 1 ∨
      9999 < (Timestamp.ofMillis (micros / 1000)).date.year) := by
    have hpos := hvalid.year_pos
    have hle := hvalid.year_le
    omega
  rw [timestamp, hmicros]
  show (if (!calendarHolds _) = true then _ else if _ then _ else _) = _
  rw [hvalid.calendarHolds, if_neg (by decide), if_neg hrange]

end OpenerPolicy.Time
