/-
  Instants as text: RFC 3339 in UTC, with as many groups of three fraction digits as are needed.

  An instant is the nanoseconds since the Unix epoch.  The text is

      YYYY-MM-DDTHH:MM:SS[.fff[fff[fff]]]+00:00

  and a store compares instants by comparing such texts.  The fraction has a length of its own in
  every text, so this is not a comparison of equally long ones.

  1. **Calendar** — `civilFromDays`: the date of a day number, by cycles of 400, 100 and 4 years from
     the first of March, so that a leap day is the last day of its cycle.

  2. **Text** — `toRfc3339`.

  3. **The order** (`toRfc3339_lt_iff`) — in the years 0 to 9999 the texts are in the order of the
     instants: the date and the time of day have fixed places, and a fraction that stops is followed
     by a `+`, which comes before every digit and before the point.

  4. **Signed years** (`toRfc3339_le_iff_right`, `datetimeText_lt_iff`) — a sign comes before every
     digit.  So the years before 0 are in their place, and the years after 9999 come too early.  A
     text with a space for the `T` comes before all of its day.

  5. **Days apart** (`dateText_injective`) — in all years the text of a date determines the day.
-/
import Mathlib.Data.List.Lex
import Mathlib.Data.String.Basic

namespace Lib.Rfc3339

/-! ## Calendar -/

/-- Cycles of `size` in `n`; a rest that makes a cycle too many belongs to the last one. -/
def cycles (size most n : Nat) : Nat := min (n / size) most

/-- Year and day of the year for a day of a 400-year cycle; years begin on the first of March. -/
def yearOfCycle (day : Nat) : Nat × Nat :=
  let centuries := cycles 36524 3 day
  let day := day - 36524 * centuries
  let leaps := day / 1461
  let day := day - 1461 * leaps
  let years := cycles 365 3 day
  (100 * centuries + 4 * leaps + years, day - 365 * years)

/-- Month, counted from March, and day of the month for a day of the year. -/
def monthOfYear (day : Nat) : Nat × Nat :=
  let month := (5 * day + 2) / 153
  (month, day - (153 * month + 2) / 5 + 1)

/-- The date of a day, counted from the epoch: year, month, day of the month. -/
def civilFromDays (days : Int) : Int × Nat × Nat :=
  let day := days + 719468
  let (year, dayOfYear) := yearOfCycle (day % 146097).toNat
  let (month, dayOfMonth) := monthOfYear dayOfYear
  let year := 400 * (day / 146097) + year
  if month < 10 then (year, month + 3, dayOfMonth) else (year + 1, month - 9, dayOfMonth)

/-! ## Text -/

/-- The last `width` decimal digits. -/
def digits : Nat → Nat → List Char
  | 0, _ => []
  | width + 1, n => digits width (n / 10) ++ [Nat.digitChar (n % 10)]

/-- A year outside of 0 to 9999 is written with its sign. -/
def yearText (year : Int) : List Char :=
  if 0 ≤ year ∧ year ≤ 9999 then digits 4 year.toNat
  else if year < 0 then '-' :: digits (max 4 (Nat.toDigits 10 year.natAbs).length) year.natAbs
  else '+' :: digits (Nat.toDigits 10 year.natAbs).length year.natAbs

def dateText (days : Int) : List Char :=
  let (year, month, day) := civilFromDays days
  yearText year ++ '-' :: (digits 2 month ++ '-' :: digits 2 day)

/-- The time of day, in seconds since midnight. -/
def timeText (seconds : Nat) : List Char :=
  digits 2 (seconds / 3600) ++ ':' ::
    (digits 2 (seconds / 60 % 60) ++ ':' :: digits 2 (seconds % 60))

/-- No fraction, or milliseconds, microseconds or nanoseconds. -/
def fractionText (nanos : Nat) : List Char :=
  if nanos = 0 then []
  else if nanos % 1000000 = 0 then '.' :: digits 3 (nanos / 1000000)
  else if nanos % 1000 = 0 then '.' :: digits 6 (nanos / 1000)
  else '.' :: digits 9 nanos

/-- The offset of UTC. -/
def offset : List Char := ['+', '0', '0', ':', '0', '0']

/-- Nanoseconds of a day. -/
def dayNanos : Int := 86400000000000

/-- The text of an instant. -/
def toRfc3339 (instant : Int) : String :=
  let ofDay := (instant % dayNanos).toNat
  String.ofList (dateText (instant / dayNanos) ++ 'T' ::
    (timeText (ofDay / 1000000000) ++ (fractionText (ofDay % 1000000000) ++ offset)))

/-- The other form of an instant, in whole seconds: a space for the `T`, and no offset. -/
def datetimeText (seconds : Int) : String :=
  String.ofList (dateText (seconds / 86400) ++ ' ' :: timeText (seconds % 86400).toNat)

example : toRfc3339 1709210096789000000 = "2024-02-29T12:34:56.789+00:00" := by decide +kernel
example : toRfc3339 (-1) = "1969-12-31T23:59:59.999999999+00:00" := by decide +kernel

/-! ## The order of texts -/

/-- Texts of the same length decide; behind equal ones the rest does. -/
theorem append_lt {a b x y : List Char} (hlength : a.length = b.length)
    (h : a < b ∨ a = b ∧ x < y) : a ++ x < b ++ y := by
  rcases h with hlt | ⟨rfl, hlt⟩
  · induction a generalizing b with
    | nil => cases b with
      | nil => exact absurd hlt (List.lt_irrefl [])
      | cons d b => cases hlength
    | cons c a ih =>
      cases b with
      | nil => cases hlength
      | cons d b =>
        rcases List.cons_lt_cons_iff.mp hlt with hhead | ⟨rfl, htail⟩
        · exact List.cons_lt_cons_iff.mpr (.inl hhead)
        · exact List.cons_lt_cons_iff.mpr (.inr ⟨rfl, ih (Nat.succ.inj hlength) htail⟩)
  · exact List.append_left_lt hlt

theorem length_digits (width n : Nat) : (digits width n).length = width := by
  induction width generalizing n with
  | zero => rfl
  | succ width ih => rw [digits, List.length_append, ih, List.length_singleton]

theorem digitChar_lt {a b : Nat} (hab : a < b) (hb : b < 10) :
    Nat.digitChar a < Nat.digitChar b := by
  rw [Char.lt_def, UInt32.lt_iff_toNat_lt]
  change (Nat.digitChar a).toNat < (Nat.digitChar b).toNat
  rw [Nat.toNat_digitChar_of_lt_ten hb, Nat.toNat_digitChar_of_lt_ten (hab.trans hb)]
  omega

theorem digits_lt {width n m : Nat} (hnm : n < m) (hm : m < 10 ^ width) :
    digits width n < digits width m := by
  induction width generalizing n m with
  | zero => omega
  | succ width ih =>
    refine append_lt (by rw [length_digits, length_digits]) ?_
    rcases Nat.lt_or_ge (n / 10) (m / 10) with hlt | hge
    · exact .inl (ih hlt (by rw [pow_succ] at hm; omega))
    · have hdiv : n / 10 = m / 10 := by omega
      refine .inr ⟨by rw [hdiv], ?_⟩
      exact List.cons_lt_cons_iff.mpr (.inl (digitChar_lt (by omega) (by omega)))

/-! ## The order of dates -/

/-- A later number is in a later cycle, or later in the same one. -/
theorem cycles_lt {size most a b : Nat} (h : a < b) :
    cycles size most a < cycles size most b ∨
      (cycles size most a = cycles size most b ∧
        a - size * cycles size most a < b - size * cycles size most b) := by
  have hle : cycles size most a ≤ cycles size most b :=
    min_le_min_right most (Nat.div_le_div_right h.le)
  rcases Nat.lt_or_eq_of_le hle with hlt | heq
  · exact .inl hlt
  · have hbegins : size * cycles size most a ≤ a :=
      (Nat.mul_le_mul_left size (Nat.min_le_left _ _)).trans (Nat.mul_div_le a size)
    refine .inr ⟨heq, ?_⟩
    rw [← heq]
    omega

/-- Only the last cycle is longer than the others. -/
theorem rest_lt {size most n : Nat} (hsize : 0 < size) (h : cycles size most n < most) :
    n - size * cycles size most n < size := by
  have hwhole : cycles size most n = n / size := by
    unfold cycles at h ⊢
    omega
  rw [hwhole, ← Nat.mod_eq_sub_mul_div]
  exact Nat.mod_lt n hsize

/-- A later day of the cycle is in a later year, or later in the same one. -/
theorem yearOfCycle_lt {a b : Nat} (h : a < b) :
    (yearOfCycle a).1 < (yearOfCycle b).1 ∨
      ((yearOfCycle a).1 = (yearOfCycle b).1 ∧ (yearOfCycle a).2 < (yearOfCycle b).2) := by
  have hyears (n : Nat) : cycles 365 3 n ≤ 3 := Nat.min_le_right _ _
  have hcenturies := Nat.min_le_right (b / 36524) 3
  simp only [yearOfCycle]
  rcases @cycles_lt 36524 3 a b h with hcentury | ⟨hcentury, hday⟩
  · -- an earlier century has a hundred years
    have hrest := rest_lt (by decide) (hcentury.trans_le hcenturies)
    have hyear := hyears
      (a - 36524 * cycles 36524 3 a - 1461 * ((a - 36524 * cycles 36524 3 a) / 1461))
    exact .inl (by omega)
  · rw [← hcentury]
    rw [← hcentury] at hday
    generalize a - 36524 * cycles 36524 3 a = dayA at hday ⊢
    generalize b - 36524 * cycles 36524 3 a = dayB at hday ⊢
    rcases Nat.lt_or_eq_of_le (@Nat.div_le_div_right _ _ 1461 hday.le) with hleap | hleap
    · -- four years earlier
      have hyear := hyears (dayA - 1461 * (dayA / 1461))
      exact .inl (by omega)
    · have hrest : dayA - 1461 * (dayA / 1461) < dayB - 1461 * (dayB / 1461) := by omega
      rw [← hleap] at hrest ⊢
      rcases @cycles_lt 365 3 _ _ hrest with hyear | ⟨hyear, hlater⟩
      · exact .inl (by omega)
      · exact .inr ⟨by rw [hyear], hlater⟩

theorem yearOfCycle_bounds {day : Nat} (h : day < 146097) :
    (yearOfCycle day).1 < 400 ∧ (yearOfCycle day).2 < 366 := by
  simp only [yearOfCycle, cycles]
  omega

/-- A later day of the year is in a later month, or later in the same one. -/
theorem monthOfYear_lt {a b : Nat} (h : a < b) :
    (monthOfYear a).1 < (monthOfYear b).1 ∨
      ((monthOfYear a).1 = (monthOfYear b).1 ∧ (monthOfYear a).2 < (monthOfYear b).2) := by
  simp only [monthOfYear]
  omega

theorem monthOfYear_bounds {day : Nat} (h : day < 366) :
    (monthOfYear day).1 < 12 ∧ 0 < (monthOfYear day).2 ∧ (monthOfYear day).2 < 32 := by
  simp only [monthOfYear]
  omega

/-- The date of a cycle and a day of it. -/
theorem civilFromDays_eq (days : Int) :
    ∃ (cycle : Int) (day : Nat), 146097 * cycle + day = days + 719468 ∧ day < 146097 ∧
      civilFromDays days =
        if (monthOfYear (yearOfCycle day).2).1 < 10 then
          (400 * cycle + (yearOfCycle day).1, (monthOfYear (yearOfCycle day).2).1 + 3,
            (monthOfYear (yearOfCycle day).2).2)
        else
          (400 * cycle + (yearOfCycle day).1 + 1, (monthOfYear (yearOfCycle day).2).1 - 9,
            (monthOfYear (yearOfCycle day).2).2) :=
  ⟨(days + 719468) / 146097, ((days + 719468) % 146097).toNat, by omega, by omega, rfl⟩

variable {a b : Int}

/-- Dates are in the order of the days. -/
theorem civilFromDays_lt (h : a < b) :
    (civilFromDays a).1 < (civilFromDays b).1 ∨
      ((civilFromDays a).1 = (civilFromDays b).1 ∧
        ((civilFromDays a).2.1 < (civilFromDays b).2.1 ∨
          ((civilFromDays a).2.1 = (civilFromDays b).2.1 ∧
            (civilFromDays a).2.2 < (civilFromDays b).2.2))) := by
  obtain ⟨ca, da, ha, hda, hdateA⟩ := civilFromDays_eq a
  obtain ⟨cb, db, hb, hdb, hdateB⟩ := civilFromDays_eq b
  have hyearA := yearOfCycle_bounds hda
  have hyearB := yearOfCycle_bounds hdb
  have hmonthA := monthOfYear_bounds hyearA.2
  have hmonthB := monthOfYear_bounds hyearB.2
  have hlater : ca < cb ∨ (ca = cb ∧ da < db) := by omega
  -- the later day is in a later year counted from March, in a later month, or later in the month
  have horder : 400 * ca + (yearOfCycle da).1 < 400 * cb + (yearOfCycle db).1 ∨
      (400 * ca + (yearOfCycle da).1 = 400 * cb + (yearOfCycle db).1 ∧
        ((monthOfYear (yearOfCycle da).2).1 < (monthOfYear (yearOfCycle db).2).1 ∨
          ((monthOfYear (yearOfCycle da).2).1 = (monthOfYear (yearOfCycle db).2).1 ∧
            (monthOfYear (yearOfCycle da).2).2 < (monthOfYear (yearOfCycle db).2).2))) := by
    rcases hlater with hcycle | ⟨rfl, hday⟩
    · exact .inl (by omega)
    · rcases yearOfCycle_lt hday with hyear | ⟨hyear, hday⟩
      · exact .inl (by omega)
      · exact .inr ⟨by omega, monthOfYear_lt hday⟩
  rw [hdateA, hdateB]
  split <;> split <;> simp only <;> omega

/-- Months and days have two digits. -/
theorem civilFromDays_bounds (days : Int) :
    (0 < (civilFromDays days).2.1 ∧ (civilFromDays days).2.1 < 100) ∧
      0 < (civilFromDays days).2.2 ∧ (civilFromDays days).2.2 < 100 := by
  obtain ⟨cycle, day, -, hday, hdate⟩ := civilFromDays_eq days
  have hmonth := monthOfYear_bounds (yearOfCycle_bounds hday).2
  rw [hdate]
  split <;> simp only <;> omega

/-- The days of the years 0 to 9999. -/
def InRange (days : Int) : Prop := -719528 ≤ days ∧ days < 2932897

/-- The years that are printed with four digits. -/
theorem year_of_inRange {days : Int} (h : InRange days) :
    0 ≤ (civilFromDays days).1 ∧ (civilFromDays days).1 ≤ 9999 := by
  unfold InRange at h
  constructor
  · rcases Int.lt_or_eq_of_le h.1 with hlt | rfl
    · have hfirst : (civilFromDays (-719528)).1 = 0 := by decide +kernel
      rcases civilFromDays_lt hlt with hyear | ⟨hyear, -⟩ <;> omega
    · decide +kernel
  · have hend : civilFromDays 2932897 = (10000, 1, 1) := by decide +kernel
    have hlater := civilFromDays_lt h.2
    rw [hend] at hlater
    simp only at hlater
    have hmonth := civilFromDays_bounds days
    omega

/-! ## The order of instants -/

/-- Two texts that begin with the same character. -/
theorem cons_lt {c : Char} {a b : List Char} (h : a < b) : c :: a < c :: b :=
  List.cons_lt_cons_iff.mpr (.inr ⟨rfl, h⟩)

theorem dateText_eq {days : Int} (h : InRange days) :
    dateText days = digits 4 (civilFromDays days).1.toNat ++
      '-' :: (digits 2 (civilFromDays days).2.1 ++ '-' :: digits 2 (civilFromDays days).2.2) := by
  simp only [dateText, yearText, if_pos (year_of_inRange h)]

theorem length_dateText {days : Int} (h : InRange days) : (dateText days).length = 10 := by
  rw [dateText_eq h]
  simp [length_digits]

/-- An earlier date is a smaller text. -/
theorem dateText_lt (hab : a < b) (ha : InRange a) (hb : InRange b) :
    dateText a < dateText b := by
  have hyearA := year_of_inRange ha
  have hyearB := year_of_inRange hb
  have hboundsA := civilFromDays_bounds a
  have hboundsB := civilFromDays_bounds b
  rw [dateText_eq ha, dateText_eq hb]
  refine append_lt (by rw [length_digits, length_digits]) ?_
  rcases civilFromDays_lt hab with hyear | ⟨hyear, hmonth⟩
  · exact .inl (digits_lt (by omega) (by omega))
  · refine .inr ⟨by rw [hyear], cons_lt (append_lt (by rw [length_digits, length_digits]) ?_)⟩
    rcases hmonth with hmonth | ⟨hmonth, hday⟩
    · exact .inl (digits_lt hmonth hboundsB.1.2)
    · exact .inr ⟨by rw [hmonth], cons_lt (digits_lt hday hboundsB.2.2)⟩

theorem length_timeText (seconds : Nat) : (timeText seconds).length = 8 := by
  simp [timeText, length_digits]

theorem timeText_lt {a b : Nat} (hab : a < b) (hb : b < 86400) : timeText a < timeText b := by
  refine append_lt (by rw [length_digits, length_digits]) ?_
  rcases Nat.lt_or_ge (a / 3600) (b / 3600) with hhour | hhour
  · exact .inl (digits_lt hhour (by omega))
  · refine .inr ⟨by rw [show a / 3600 = b / 3600 by omega],
      cons_lt (append_lt (by rw [length_digits, length_digits]) ?_)⟩
    rcases Nat.lt_or_ge (a / 60 % 60) (b / 60 % 60) with hminute | hminute
    · exact .inl (digits_lt hminute (by omega))
    · exact .inr ⟨by rw [show a / 60 % 60 = b / 60 % 60 by omega],
        cons_lt (digits_lt (by omega) (by omega))⟩

/-- The last digits do not depend on what is before them. -/
theorem digits_mod (width n : Nat) : digits width (n % 10 ^ width) = digits width n := by
  induction width generalizing n with
  | zero => rfl
  | succ width ih =>
    have hdiv : n % 10 ^ (width + 1) / 10 = n / 10 % 10 ^ width := by
      rw [pow_succ, Nat.mul_comm, Nat.mod_mul_right_div_self]
    have hmod : n % 10 ^ (width + 1) % 10 = n % 10 := by
      rw [pow_succ, Nat.mul_comm, Nat.mod_mul_right_mod]
    rw [digits, digits, hdiv, hmod, ih]

/-- The digits of a fraction are those of its groups. -/
theorem digits_append (width k n : Nat) :
    digits (width + k) n = digits width (n / 10 ^ k) ++ digits k (n % 10 ^ k) := by
  rw [digits_mod]
  induction k generalizing n with
  | zero => simp [digits]
  | succ k ih =>
    rw [← Nat.add_assoc, digits, ih, digits, List.append_assoc, Nat.div_div_eq_div_mul, pow_succ,
      Nat.mul_comm 10]

/-- A group of a fraction that goes on, or its end. -/
def groupText (groups : List Nat) : List Char :=
  match groups with
  | [] => offset
  | group :: rest => if (group :: rest).all (· = 0) then offset else digits 3 group ++ groupText rest

/-- The fraction of a second in groups of three digits, without groups of zeros at its end. -/
theorem fractionText_eq (nanos : Nat) :
    fractionText nanos ++ offset =
      if nanos = 0 then offset
      else '.' :: groupText [nanos / 1000000, nanos / 1000 % 1000, nanos % 1000] := by
  have hmillis : digits 6 (nanos / 1000) =
      digits 3 (nanos / 1000000) ++ digits 3 (nanos / 1000 % 1000) := by
    simpa [Nat.div_div_eq_div_mul] using digits_append 3 3 (nanos / 1000)
  have hnanos : digits 9 nanos =
      digits 3 (nanos / 1000000) ++ (digits 3 (nanos / 1000 % 1000) ++ digits 3 (nanos % 1000)) := by
    simpa [hmillis] using digits_append 6 3 nanos
  unfold fractionText
  by_cases hzero : nanos = 0
  · rw [if_pos hzero, if_pos hzero, List.nil_append]
  · rw [if_neg hzero, if_neg hzero]
    by_cases hmilli : nanos % 1000000 = 0
    · have hmicro : nanos / 1000 % 1000 = 0 := by omega
      have hnano : nanos % 1000 = 0 := by omega
      have hfirst : nanos / 1000000 ≠ 0 := by omega
      simp [hmilli, groupText, hmicro, hnano, hfirst]
    · by_cases hmicro : nanos % 1000 = 0
      · have hsecond : nanos / 1000 % 1000 ≠ 0 := by omega
        simp [hmilli, hmicro, groupText, hsecond, hmillis]
      · simp [hmilli, hmicro, groupText, hnanos]

/-- The sign of the offset comes before every digit. -/
theorem offset_lt_digits (n : Nat) (rest : List Char) : offset < digits 3 n ++ rest := by
  have hdigit : n / 10 / 10 % 10 < 10 := Nat.mod_lt _ (by decide)
  refine List.cons_lt_cons_iff.mpr (.inl ?_)
  rw [Char.lt_def, UInt32.lt_iff_toNat_lt]
  change 43 < (Nat.digitChar (n / 10 / 10 % 10)).toNat
  rw [Nat.toNat_digitChar_of_lt_ten hdigit]
  omega

/-- Nothing of the same length comes before zeros. -/
theorem not_lt_zeros {a b : List Nat} (hlength : a.length = b.length)
    (hzero : b.all (· = 0) = true) : ¬ a < b := by
  induction a generalizing b with
  | nil =>
    cases b with
    | nil => exact List.lt_irrefl []
    | cons y b => cases hlength
  | cons x a ih =>
    cases b with
    | nil => cases hlength
    | cons y b =>
      rw [List.all_cons, Bool.and_eq_true, decide_eq_true_eq] at hzero
      intro h
      rcases List.cons_lt_cons_iff.mp h with hhead | ⟨-, htail⟩
      · omega
      · exact ih (Nat.succ.inj hlength) hzero.2 htail

/-- Groups of the same number are in the order of their texts. -/
theorem groupText_lt {a b : List Nat} (hlength : a.length = b.length) (hb : ∀ g ∈ b, g < 1000)
    (h : a < b) : groupText a < groupText b := by
  induction a generalizing b with
  | nil =>
    cases b with
    | nil => exact absurd h (List.lt_irrefl [])
    | cons y b => cases hlength
  | cons x a ih =>
    cases b with
    | nil => cases hlength
    | cons y b =>
      have hnonzero : ¬ (y :: b).all (· = 0) = true := fun hzero => not_lt_zeros hlength hzero h
      rw [groupText, groupText, if_neg hnonzero]
      split
      · exact offset_lt_digits y _
      · refine append_lt (by rw [length_digits, length_digits]) ?_
        rcases List.cons_lt_cons_iff.mp h with hhead | ⟨rfl, htail⟩
        · exact .inl (digits_lt hhead (hb y List.mem_cons_self))
        · exact .inr ⟨rfl, ih (Nat.succ.inj hlength)
            (fun g hg => hb g (List.mem_cons_of_mem _ hg)) htail⟩

theorem fractionText_lt {a b : Nat} (hab : a < b) (hb : b < 1000000000) :
    fractionText a ++ offset < fractionText b ++ offset := by
  rw [fractionText_eq, fractionText_eq, if_neg (by omega : ¬ b = 0)]
  split
  · exact List.cons_lt_cons_iff.mpr (.inl (by decide))
  · refine cons_lt (groupText_lt rfl (fun g hg => ?_) ?_)
    · simp only [List.mem_cons, List.not_mem_nil, or_false] at hg
      omega
    · simp only [List.cons_lt_cons_iff, List.lt_irrefl, and_false, or_false]
      omega

/-- An instant of the years 0 to 9999. -/
def Printable (instant : Int) : Prop := InRange (instant / dayNanos)

instance (instant : Int) : Decidable (Printable instant) :=
  inferInstanceAs (Decidable (-719528 ≤ instant / dayNanos ∧ instant / dayNanos < 2932897))

/-- **An earlier instant is a smaller text.** -/
theorem toRfc3339_lt (hab : a < b) (ha : Printable a) (hb : Printable b) :
    toRfc3339 a < toRfc3339 b := by
  simp only [toRfc3339, dayNanos, String.lt_iff_toList_lt, String.toList_ofList]
  unfold Printable dayNanos at ha hb
  refine append_lt (by rw [length_dateText ha, length_dateText hb]) ?_
  rcases Int.lt_or_le (a / 86400000000000) (b / 86400000000000) with hday | hday
  · exact .inl (dateText_lt hday ha hb)
  · refine .inr ⟨by rw [show a / 86400000000000 = b / 86400000000000 by omega],
      cons_lt (append_lt (by rw [length_timeText, length_timeText]) ?_)⟩
    rcases Nat.lt_or_ge ((a % 86400000000000).toNat / 1000000000)
        ((b % 86400000000000).toNat / 1000000000) with hsecond | hsecond
    · exact .inl (timeText_lt hsecond (by omega))
    · exact .inr ⟨by rw [show (a % 86400000000000).toNat / 1000000000 =
          (b % 86400000000000).toNat / 1000000000 by omega],
        fractionText_lt (by omega) (Nat.mod_lt _ (by decide))⟩

/-- **Texts are in the order of the instants.** -/
theorem toRfc3339_lt_iff (ha : Printable a) (hb : Printable b) :
    toRfc3339 a < toRfc3339 b ↔ a < b := by
  refine ⟨fun h => ?_, fun h => toRfc3339_lt h ha hb⟩
  rcases Int.lt_trichotomy a b with hlt | rfl | hgt
  · exact hlt
  · exact absurd h (lt_irrefl _)
  · exact absurd (h.trans (toRfc3339_lt hgt hb ha)) (lt_irrefl _)

theorem toRfc3339_le_iff (ha : Printable a) (hb : Printable b) :
    toRfc3339 a ≤ toRfc3339 b ↔ a ≤ b := by
  rw [← not_lt, toRfc3339_lt_iff hb ha, Int.not_lt]

/-! ## Signed years -/

/-- An instant of the year 10000 or later. -/
def FiveDigits (instant : Int) : Prop := 2932897 ≤ instant / dayNanos

theorem isDigit_of_mem_digits {width n : Nat} {c : Char} (h : c ∈ digits width n) :
    c.isDigit = true := by
  induction width generalizing n with
  | zero => cases h
  | succ width ih =>
    rcases List.mem_append.mp h with hfront | hlast
    · exact ih hfront
    · rw [List.mem_singleton.mp hlast, Nat.isDigit_digitChar]
      exact decide_eq_true (Nat.mod_lt n (by decide))

/-- Before the year 0 and after 9999 a year is not one of four digits. -/
theorem year_of_not_inRange {days : Int} (h : ¬ InRange days) :
    ¬ (0 ≤ (civilFromDays days).1 ∧ (civilFromDays days).1 ≤ 9999) := by
  have hbounds := civilFromDays_bounds days
  unfold InRange at h
  rcases Int.lt_or_le days (-719528) with hbefore | hsince
  · have hfirst : civilFromDays (-719528) = (0, 1, 1) := by decide +kernel
    have hearlier := civilFromDays_lt hbefore
    rw [hfirst] at hearlier
    simp only at hearlier
    omega
  · have hend : civilFromDays 2932897 = (10000, 1, 1) := by decide +kernel
    rcases Int.lt_or_eq_of_le (show 2932897 ≤ days by omega) with hlt | rfl
    · have hlater := civilFromDays_lt hlt
      rw [hend] at hlater
      simp only at hlater
      omega
    · rw [hend]
      decide

/-- Such a year begins with its sign. -/
theorem dateText_signed {days : Int} (h : ¬ InRange days) :
    ∃ sign rest, dateText days = sign :: rest ∧ sign < '0' := by
  have hyear := year_of_not_inRange h
  by_cases hneg : (civilFromDays days).1 < 0
  · simp only [dateText, yearText, if_neg hyear, if_pos hneg, List.cons_append]
    exact ⟨'-', _, rfl, by decide⟩
  · simp only [dateText, yearText, if_neg hyear, if_neg hneg, List.cons_append]
    exact ⟨'+', _, rfl, by decide⟩

/-- A year of four digits begins with a digit. -/
theorem dateText_unsigned {days : Int} (h : InRange days) :
    ∃ digit rest, dateText days = digit :: rest ∧ '0' ≤ digit := by
  rw [dateText_eq h]
  have hlength := length_digits 4 (civilFromDays days).1.toNat
  cases hdigits : digits 4 (civilFromDays days).1.toNat with
  | nil => rw [hdigits] at hlength; cases hlength
  | cons digit rest =>
    have hdigit : digit.isDigit = true :=
      isDigit_of_mem_digits (show digit ∈ digits 4 _ from hdigits ▸ List.mem_cons_self)
    refine ⟨digit, _, rfl, ?_⟩
    rw [Char.isDigit, Bool.and_eq_true, decide_eq_true_eq] at hdigit
    exact hdigit.1

/-- **A signed year comes first.** -/
theorem signed_lt (ha : ¬ InRange a) (hb : InRange b) (x y : List Char) :
    dateText a ++ x < dateText b ++ y := by
  obtain ⟨sign, rest, hsigned, hsign⟩ := dateText_signed ha
  obtain ⟨digit, rest', hunsigned, hdigit⟩ := dateText_unsigned hb
  rw [hsigned, hunsigned]
  exact List.cons_lt_cons_iff.mpr (.inl (lt_of_lt_of_le hsign hdigit))

theorem toRfc3339_lt_of_not_printable (ha : ¬ Printable a) (hb : Printable b) :
    toRfc3339 a < toRfc3339 b := by
  simp only [toRfc3339, String.lt_iff_toList_lt, String.toList_ofList]
  exact signed_lt ha hb _ _

/-- What a text with a year of four digits does not come before. -/
theorem toRfc3339_le_iff_right (hb : Printable b) :
    toRfc3339 a ≤ toRfc3339 b ↔ a ≤ b ∨ FiveDigits a := by
  by_cases ha : Printable a
  · rw [toRfc3339_le_iff ha hb]
    unfold Printable InRange FiveDigits at *
    constructor
    · exact .inl
    · rintro (hle | hfive)
      · exact hle
      · omega
  · refine iff_of_true (toRfc3339_lt_of_not_printable ha hb).le ?_
    unfold Printable InRange FiveDigits dayNanos at *
    omega

/-- What does not come before a text with a year of four digits. -/
theorem toRfc3339_le_iff_left (ha : Printable a) :
    toRfc3339 a ≤ toRfc3339 b ↔ a ≤ b ∧ ¬ FiveDigits b := by
  by_cases hb : Printable b
  · rw [toRfc3339_le_iff ha hb]
    unfold Printable InRange FiveDigits at *
    constructor
    · intro hle
      exact ⟨hle, by omega⟩
    · exact And.left
  · refine iff_of_false (not_le_of_gt (toRfc3339_lt_of_not_printable hb ha)) ?_
    unfold Printable InRange FiveDigits dayNanos at *
    omega

/-- **A text with a space comes before all of its day**, and only before its day and later ones. -/
theorem datetimeText_lt_iff {seconds t : Int} (hseconds : seconds / 86400 < 2932897)
    (ht : Printable t) : datetimeText seconds < toRfc3339 t ↔ seconds / 86400 ≤ t / dayNanos := by
  simp only [datetimeText, toRfc3339, String.lt_iff_toList_lt, String.toList_ofList]
  by_cases hrange : InRange (seconds / 86400)
  · rcases Int.lt_trichotomy (seconds / 86400) (t / dayNanos) with hlt | heq | hgt
    · exact iff_of_true (append_lt (by rw [length_dateText hrange, length_dateText ht])
        (.inl (dateText_lt hlt hrange ht))) hlt.le
    · rw [heq]
      exact iff_of_true (List.append_left_lt (List.cons_lt_cons_iff.mpr (.inl (by decide)))) le_rfl
    · have hafter := append_lt (x := 'T' :: (timeText ((t % dayNanos).toNat / 1000000000) ++
          (fractionText ((t % dayNanos).toNat % 1000000000) ++ offset)))
        (y := ' ' :: timeText (seconds % 86400).toNat)
        (by rw [length_dateText hrange, length_dateText ht]) (.inl (dateText_lt hgt ht hrange))
      exact iff_of_false (fun h => List.lt_irrefl _ (h.trans hafter)) (by omega)
  · refine iff_of_true (signed_lt hrange ht _ _) ?_
    unfold Printable InRange at *
    omega

/-! ## A text determines its day -/

/-- Digits that are not cut off determine the number. -/
theorem digits_inj {width n m : Nat} (hn : n < 10 ^ width) (hm : m < 10 ^ width)
    (h : digits width n = digits width m) : n = m := by
  rcases Nat.lt_trichotomy n m with hlt | heq | hlt
  · exact absurd (h ▸ digits_lt hlt hm) (List.lt_irrefl _)
  · exact heq
  · exact absurd (h ▸ digits_lt hlt hn) (List.lt_irrefl _)

theorem civilFromDays_injective : Function.Injective civilFromDays := by
  intro a b h
  rcases Int.lt_trichotomy a b with hlt | heq | hlt
  · have hdate := civilFromDays_lt hlt
    rw [h] at hdate
    omega
  · exact heq
  · have hdate := civilFromDays_lt hlt
    rw [h] at hdate
    omega

/-- As many digits as a number has, or more. -/
theorem lt_pow_of_length_le {width n : Nat} (h : (Nat.toDigits 10 n).length ≤ width) :
    n < 10 ^ width :=
  (Nat.length_toDigits_le_iff (by decide)
    (Nat.lt_of_lt_of_le Nat.length_toDigits_pos h)).mp h

/-- The three ways to write a year: with no sign, with a minus and with a plus. -/
theorem yearText_cases (year : Int) :
    (0 ≤ year ∧ year.toNat < 10 ^ 4 ∧ yearText year = digits 4 year.toNat) ∨
    (year < 0 ∧ ∃ width, year.natAbs < 10 ^ width ∧
      yearText year = '-' :: digits width year.natAbs) ∨
    (0 ≤ year ∧ ∃ width, year.natAbs < 10 ^ width ∧
      yearText year = '+' :: digits width year.natAbs) := by
  by_cases hrange : 0 ≤ year ∧ year ≤ 9999
  · exact .inl ⟨hrange.1, by omega, if_pos hrange⟩
  · by_cases hneg : year < 0
    · refine .inr (.inl ⟨hneg, _, ?_, by rw [yearText, if_neg hrange, if_pos hneg]⟩)
      exact lt_pow_of_length_le (Nat.le_max_right _ _)
    · refine .inr (.inr ⟨Int.not_lt.mp hneg, _, ?_, by rw [yearText, if_neg hrange, if_neg hneg]⟩)
      exact lt_pow_of_length_le (Nat.le_refl _)

/-- No sign among the digits. -/
theorem digits_ne_cons {width n : Nat} {c : Char} {rest : List Char} (hc : c.isDigit = false) :
    digits width n ≠ c :: rest := by
  intro h
  have hmem : c ∈ digits width n := h ▸ List.mem_cons_self
  cases hc.symm.trans (isDigit_of_mem_digits hmem)

/-- Signed digits determine the number. -/
theorem cons_digits_inj {sign : Char} {width width' n m : Nat} (hn : n < 10 ^ width)
    (hm : m < 10 ^ width') (h : sign :: digits width n = sign :: digits width' m) : n = m := by
  have htail := (List.cons.inj h).2
  have hwidth : width = width' := by
    simpa only [length_digits] using congrArg List.length htail
  subst hwidth
  exact digits_inj hn hm htail

/-- Years are told apart by their texts. -/
theorem yearText_injective : Function.Injective yearText := by
  intro a b h
  rcases yearText_cases a with ⟨ha, hla, hta⟩ | ⟨ha, wa, hla, hta⟩ | ⟨ha, wa, hla, hta⟩ <;>
    rcases yearText_cases b with ⟨hb, hlb, htb⟩ | ⟨hb, wb, hlb, htb⟩ | ⟨hb, wb, hlb, htb⟩ <;>
    rw [hta, htb] at h
  · have hnat := digits_inj hla hlb h
    omega
  · exact absurd h (digits_ne_cons (by decide))
  · exact absurd h (digits_ne_cons (by decide))
  · exact absurd h.symm (digits_ne_cons (by decide))
  · have hnat := cons_digits_inj hla hlb h
    omega
  · cases h
  · exact absurd h.symm (digits_ne_cons (by decide))
  · cases h
  · have hnat := cons_digits_inj hla hlb h
    omega

theorem dateText_injective : Function.Injective dateText := by
  intro a b h
  have hboundsA := civilFromDays_bounds a
  have hboundsB := civilFromDays_bounds b
  obtain ⟨hyear, hrest⟩ := List.append_inj' h (by simp [length_digits])
  obtain ⟨hmonth, hday⟩ := List.append_inj (List.cons.inj hrest).2 (by simp [length_digits])
  apply civilFromDays_injective
  refine Prod.ext (yearText_injective hyear) (Prod.ext ?_ ?_)
  · exact digits_inj hboundsA.1.2 hboundsB.1.2 hmonth
  · exact digits_inj hboundsA.2.2 hboundsB.2.2 (List.cons.inj hday).2

end Lib.Rfc3339
