/-! An instant is a civil date, a second of its day and a fraction of that second, in UTC. -/

namespace SolverHub

/-- A year of the Gregorian calendar has a day more when four divides it, centuries only by four hundred. -/
def isLeapYear (year : Int) : Bool :=
  year % 4 == 0 && (year % 100 != 0 || year % 400 == 0)

/-- The number of days of a month. -/
def daysInMonth (year : Int) (month : Nat) : Nat :=
  if month = 2 then if isLeapYear year then 29 else 28
  else if month = 4 ∨ month = 6 ∨ month = 9 ∨ month = 11 then 30
  else 31

/-- The first year that an instant can lie in. -/
def firstYear : Int := -262143

/-- The last year that an instant can lie in. -/
def lastYear : Int := 262142

/-- The parts of an instant name an existing date and time.

A fraction of a whole second or more marks a leap second, which may follow any second. -/
structure Instant.Valid (year : Int) (month day second nano : Nat) : Prop where
  year_first : firstYear ≤ year
  year_last : year ≤ lastYear
  month_first : 1 ≤ month
  month_last : month ≤ 12
  day_first : 1 ≤ day
  day_last : day ≤ daysInMonth year month
  second_last : second < 86400
  nano_last : nano < 2000000000

instance (year : Int) (month day second nano : Nat) :
    Decidable (Instant.Valid year month day second nano) :=
  decidable_of_iff
    ((firstYear ≤ year ∧ year ≤ lastYear) ∧ (1 ≤ month ∧ month ≤ 12) ∧
      (1 ≤ day ∧ day ≤ daysInMonth year month) ∧ second < 86400 ∧ nano < 2000000000)
    ⟨fun ⟨⟨a, b⟩, ⟨c, d⟩, ⟨e, f⟩, g, h⟩ => ⟨a, b, c, d, e, f, g, h⟩,
      fun ⟨a, b, c, d, e, f, g, h⟩ => ⟨⟨a, b⟩, ⟨c, d⟩, ⟨e, f⟩, g, h⟩⟩

/-- A point in time. -/
structure Instant where
  /-- The year, where zero is the year before the first. -/
  year : Int
  /-- The month, from one to twelve. -/
  month : Nat
  /-- The day of the month, from one. -/
  day : Nat
  /-- The second of the day, from zero. -/
  second : Nat
  /-- The nanosecond, at a thousand million and above within a leap second. -/
  nano : Nat
  /-- The date and the time exist. -/
  valid : Instant.Valid year month day second nano
deriving DecidableEq

namespace Instant

/-- The instant with the given parts, if there is one. -/
def ofParts? (year : Int) (month day second nano : Nat) : Option Instant :=
  if valid : Valid year month day second nano then some ⟨year, month, day, second, nano, valid⟩
  else none

/-- The start of the first day of 1970. -/
def epoch : Instant :=
  ⟨1970, 1, 1, 0, 0, by decide⟩

/-- The year, month and day after a date. -/
def nextDay (year : Int) (month day : Nat) : Int × Nat × Nat :=
  if day < daysInMonth year month then (year, month, day + 1)
  else if month < 12 then (year, month + 1, 1)
  else (year + 1, 1, 1)

/-- The year, month and day before a date. -/
def previousDay (year : Int) (month day : Nat) : Int × Nat × Nat :=
  if 1 < day then (year, month, day - 1)
  else if 1 < month then (year, month - 1, daysInMonth year (month - 1))
  else (year - 1, 12, 31)

/-- The instant at which a place with the given offset, in seconds east, shows the given local time. -/
def ofLocal? (year : Int) (month day second nano : Nat) (offset : Int) : Option Instant :=
  if Valid year month day second nano then
    let shifted : Int := second - offset
    if shifted < 0 then
      let (year, month, day) := previousDay year month day
      ofParts? year month day (shifted + 86400).toNat nano
    else if 86400 ≤ shifted then
      let (year, month, day) := nextDay year month day
      ofParts? year month day (shifted - 86400).toNat nano
    else ofParts? year month day shifted.toNat nano
  else none

/-- A number that grows with time and tells all instants apart. -/
def rank (instant : Instant) : Int :=
  (((instant.year * 16 + instant.month) * 32 + instant.day) * 86400 + instant.second) * 2000000000
    + instant.nano

/-- An instant is not later than another. -/
def notAfter (first second : Instant) : Bool :=
  first.rank ≤ second.rank

/-- The release of a daily puzzle is the start of its day in December five hours west of UTC. -/
def adventRelease? (year : Int) (day : Nat) : Option Instant :=
  ofParts? year 12 day (5 * 3600) 0

/-- A month never has more days than a mixed radix of 32 can hold. -/
theorem daysInMonth_le (year : Int) (month : Nat) : daysInMonth year month ≤ 31 := by
  -- Every branch of the definition is a number up to 31.
  unfold daysInMonth
  repeat' split
  all_goals decide

/-- Instants with the same rank are the same. -/
theorem rank_injective {first second : Instant} (same : first.rank = second.rank) :
    first = second := by
  -- Each part stays below the radix of its place, so the places can be read off one by one.
  obtain ⟨year, month, day, moment, nano, valid⟩ := first
  obtain ⟨year', month', day', moment', nano', valid'⟩ := second
  have days := Nat.le_trans valid.day_last (daysInMonth_le _ _)
  have days' := Nat.le_trans valid'.day_last (daysInMonth_le _ _)
  have := valid.month_last
  have := valid'.month_last
  have := valid.second_last
  have := valid'.second_last
  have := valid.nano_last
  have := valid'.nano_last
  simp only [rank] at same
  have : year = year' := by omega
  have : month = month' := by omega
  have : day = day' := by omega
  have : moment = moment' := by omega
  have : nano = nano' := by omega
  simp_all

end Instant

end SolverHub
