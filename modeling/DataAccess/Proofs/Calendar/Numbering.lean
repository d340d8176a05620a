import DataAccess.Calendar.Timestamp

-- Days are numbered without gaps, so that a date is found again from its number, and a point in
-- time from the microseconds since some day.
namespace DataAccess.Calendar

theorem yearStart_succ (year : Int) :
    yearStart (year + 1) = yearStart year + if isLeapYear year then 366 else 365 := by
  simp only [yearStart,isLeapYear,Bool.and_eq_true,Bool.or_eq_true,decide_eq_true_eq]
  split <;> omega

theorem yearStart_le {first later : Int} (order : first ≤ later) :
    yearStart first ≤ yearStart later := by
  simp only [yearStart]
  omega

-- The guess from the mean length of a year is off by one year at most.
theorem yearOfNumber_eq {year n : Int} (begun : yearStart year ≤ n)
    (before : n < yearStart (year + 1)) : yearOfNumber n = year := by
  have near : n * 400 / 146097 + 1 = year - 1 ∨ n * 400 / 146097 + 1 = year ∨
      n * 400 / 146097 + 1 = year + 1 := by
    simp only [yearStart] at begun before
    omega
  have previous := yearStart_le (show year - 1 ≤ year by omega)
  unfold yearOfNumber
  rcases near with early | same | late
  · rw [early]
    dsimp only
    rw [Int.sub_add_cancel,if_neg (by omega),if_pos begun]
  · rw [same]
    dsimp only
    rw [if_neg (by omega),if_neg (by omega)]
  · rw [late]
    dsimp only
    rw [if_pos before]
    omega

theorem monthStart_succ (year : Int) {month : Nat} (some : 1 ≤ month) :
    monthStart year (month + 1) = monthStart year month + daysInMonth year month := by
  cases month with
  | zero => omega
  | succ month => rfl

theorem monthStart_later (year : Int) {first later : Nat} (some : 1 ≤ first) (order : first < later) :
    monthStart year first + daysInMonth year first ≤ monthStart year later := by
  induction later with
  | zero => omega
  | succ later ih =>
    rw [monthStart_succ year (by omega)]
    by_cases next : first = later
    · subst next
      exact Nat.le_refl _
    · have further := ih (by omega)
      omega

theorem monthStart_end (year : Int) :
    monthStart year 13 = if isLeapYear year then 366 else 365 := by
  simp only [monthStart,daysInMonth]
  split <;> rfl

-- Months are gone through from one that is not later, and the days counted from its first.
theorem monthAndDay_eq {year : Int} {month day : Nat} (months : month ≤ 12) (days : 1 ≤ day)
    (inside : day ≤ daysInMonth year month) {now left fuel : Nat} (last : now + fuel = 12)
    (some : 1 ≤ now) (order : now ≤ month)
    (same : monthStart year now + left = monthStart year month + (day - 1)) :
    monthAndDay year now left fuel = (month,day) := by
  induction fuel generalizing now left with
  | zero =>
    have here : now = month := by omega
    subst here
    rw [monthAndDay,show left + 1 = day by omega]
  | succ fuel ih =>
    rw [monthAndDay]
    by_cases here : now = month
    · subst here
      rw [if_pos (by omega),show left + 1 = day by omega]
    · have later := monthStart_later year some (show now < month by omega)
      have next := monthStart_succ year some
      rw [if_neg (by omega)]
      exact ih (by omega) (by omega) (by omega) (by omega)

namespace Date

-- A date lies in its year.
theorem number_bounds (d : Date) :
    yearStart d.year ≤ d.number ∧ d.number < yearStart (d.year + 1) := by
  obtain ⟨_,⟨some,months⟩,days,inside⟩ := d.valid
  have within := monthStart_later d.year some (show d.month < 13 by omega)
  rw [monthStart_end] at within
  rw [yearStart_succ,number]
  split at within <;> rename_i leap
  · rw [if_pos leap]
    omega
  · rw [if_neg leap]
    omega

theorem ofNumber?_number (d : Date) : ofNumber? d.number = some d := by
  obtain ⟨begun,before⟩ := d.number_bounds
  obtain ⟨_,⟨first,months⟩,days,inside⟩ := d.valid
  have left : (d.number - yearStart d.year).toNat = monthStart d.year d.month + (d.day - 1) := by
    unfold number
    omega
  have found : monthAndDay d.year 1 (d.number - yearStart d.year).toNat 11 = (d.month,d.day) :=
    monthAndDay_eq months days inside rfl (Nat.le_refl 1) first
      (by rw [left]; exact Nat.zero_add _)
  unfold ofNumber?
  simp only [yearOfNumber_eq begun before,found]
  exact dif_pos d.valid

-- The first and the last day of the calendar.
theorem number_range (d : Date) : -95746130 ≤ d.number ∧ d.number ≤ 95745398 := by
  obtain ⟨begun,before⟩ := d.number_bounds
  obtain ⟨⟨least,greatest⟩,_⟩ := d.valid
  have low := yearStart_le least
  have high := yearStart_le (show d.year + 1 ≤ greatestYear + 1 by omega)
  have first : yearStart leastYear = -95746130 := by decide
  have last : yearStart (greatestYear + 1) = 95745399 := by decide
  omega

end Date

-- What a timestamp tells apart of its time when it has no leap second and whole microseconds.
def Time.IsMicros (t : Time) : Prop := t.isLeap = false ∧ t.nanos % 1000 = 0

instance (t : Time) : Decidable t.IsMicros := by unfold Time.IsMicros; infer_instance

namespace Timestamp

theorem afterMicros?_eq {t : Timestamp} (whole : t.time.IsMicros) (day : Int) :
    afterMicros? day (((t.date.number - day) * 86400 + t.time.seconds) * 1_000_000 +
      t.time.nanos / 1000) = some t := by
  obtain ⟨date,⟨seconds,nanos,seconds_lt,nanos_lt⟩⟩ := t
  obtain ⟨common,micros⟩ := whole
  simp only [Time.isLeap,decide_eq_false_iff_not,Nat.not_le] at common micros
  have seconds_eq : (((date.number - day) * 86400 + seconds) * 1_000_000 +
      (nanos : Int) / 1000) / 1_000_000 = (date.number - day) * 86400 + seconds := by omega
  have rest_eq : ((((date.number - day) * 86400 + seconds) * 1_000_000 +
      (nanos : Int) / 1000) % 1_000_000).toNat * 1000 = nanos := by omega
  have days_eq : day + ((date.number - day) * 86400 + seconds) / 86400 = date.number := by omega
  have within_eq : (((date.number - day) * 86400 + (seconds : Int)) % 86400).toNat = seconds := by
    omega
  unfold afterMicros?
  simp only [seconds_eq,rest_eq,days_eq,within_eq,Date.ofNumber?_number,Option.map_some]

end Timestamp

end DataAccess.Calendar
