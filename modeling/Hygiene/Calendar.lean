/-!
# Years

The year in which a moment falls, when the moment is given in seconds since the beginning
of 1970. Years have 365 days, or 366 when they are divisible by four and, if they are
divisible by a hundred, also by four hundred.
-/

set_option autoImplicit false

namespace Hygiene.Calendar

/-- The number of seconds of a day. -/
def secondsPerDay : Nat := 86400

/-- Whether a year has 366 days. -/
def isLeap (year : Nat) : Bool :=
  year % 4 = 0 && (year % 100 ≠ 0 || year % 400 = 0)

/-- The number of days of a year. -/
def daysOf (year : Nat) : Nat :=
  if isLeap year then 366 else 365

/-- The year that is reached from the beginning of `year` after some days, at most as many
years later as the bound. -/
def yearAfter : (bound : Nat) → (year days : Nat) → Nat
  | 0, year, _ => year
  | bound + 1, year, days =>
    if days < daysOf year then year else yearAfter bound (year + 1) (days - daysOf year)

/-- The year of a moment. -/
def yearOf (seconds : Nat) : Nat :=
  let days := seconds / secondsPerDay
  yearAfter days 1970 days

end Hygiene.Calendar
