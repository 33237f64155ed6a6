import Hygiene.Toml.Number

/-!
# TOML moments

A moment is a date, a time of day, or both with a `T` or a blank between them
and perhaps an offset behind the time. The functions here judge a whole
spelling: its form, and that the date and the time exist.
-/

set_option autoImplicit false

namespace Hygiene.Toml

/-- The number that two digits spell. -/
def twoDigits? (tens ones : Char) : Option Nat :=
  if tens.isDigit && ones.isDigit then some (ofDigits 10 [tens, ones]) else none

/-- The number of days in a month. -/
def daysInMonth (year month : Nat) : Nat :=
  if month = 2 then
    if year % 4 = 0 && (year % 100 ≠ 0 || year % 400 = 0) then 29 else 28
  else if month = 4 || month = 6 || month = 9 || month = 11 then 30
  else 31

/-- Whether a spelling is a date that exists. -/
def isDate : Text → Bool
  | [y₁, y₂, y₃, y₄, '-', m₁, m₂, '-', d₁, d₂] =>
    match twoDigits? y₁ y₂, twoDigits? y₃ y₄, twoDigits? m₁ m₂, twoDigits? d₁ d₂ with
    | some century, some year, some month, some day =>
      1 ≤ month && month ≤ 12 && 1 ≤ day && day ≤ daysInMonth (100 * century + year) month
    | _, _, _, _ => false
  | _ => false

/-- Whether four characters are an hour up to the last one and a minute. -/
def isHourMinute (lastHour : Nat) (h₁ h₂ m₁ m₂ : Char) : Bool :=
  match twoDigits? h₁ h₂, twoDigits? m₁ m₂ with
  | some hour, some minute => hour ≤ lastHour && minute ≤ 59
  | _, _ => false

/-- What follows a time of day without its fraction. Leap seconds exist. -/
def afterSeconds? (lastHour : Nat) : Text → Option Text
  | h₁ :: h₂ :: ':' :: m₁ :: m₂ :: ':' :: s₁ :: s₂ :: rest =>
    match twoDigits? s₁ s₂ with
    | some second =>
      if isHourMinute lastHour h₁ h₂ m₁ m₂ && second ≤ 60 then some rest else none
    | none => none
  | _ => none

/-- What follows a time of day. -/
def afterTime? (lastHour : Nat) (spelling : Text) : Option Text :=
  (afterSeconds? lastHour spelling).bind fun
    | '.' :: rest =>
      let places := rest.takeWhile Char.isDigit
      if places.isEmpty then none else some (rest.drop places.length)
    | rest => some rest

/-- Whether a spelling is an offset from universal time, or nothing. -/
def isOffset : Text → Bool
  | [] => true
  | ['Z'] => true
  | ['z'] => true
  | [sign, h₁, h₂, ':', m₁, m₂] => (sign == '+' || sign == '-') && isHourMinute 23 h₁ h₂ m₁ m₂
  | _ => false

/-- Whether a spelling is a time of day. -/
def isTime (spelling : Text) : Bool :=
  afterTime? 23 spelling == some []

/-- Whether a spelling is a time of day with or without an offset. -/
def isTimeOfDate (spelling : Text) : Bool :=
  match afterTime? 23 spelling with
  | some rest => isOffset rest
  | none => false

/-- Whether a spelling without blanks is a moment. -/
def isMoment (spelling : Text) : Bool :=
  isDate spelling || isTime spelling ||
    match spelling.splitAt 10 with
    | (date, separator :: time) =>
      (separator == 'T' || separator == 't') && isDate date && isTimeOfDate time
    | _ => false

/-! ## Moments that are handed over

A moment is handed over as a text, and whoever takes it reads it once more. Then an hour may also
be the one behind the last, an offset may be any up to a day, and a blank may stand between the
date and the time. -/

/-- Whether a spelling is an offset of at most a day, or nothing. -/
def isWideOffset : Text → Bool
  | [sign, h₁, h₂, ':', m₁, m₂] =>
    (sign == '+' || sign == '-') &&
      match twoDigits? h₁ h₂, twoDigits? m₁ m₂ with
      | some hours, some minutes => 60 * hours + minutes ≤ 60 * 24
      | _, _ => false
  | rest => rest.isEmpty || rest == ['Z'] || rest == ['z']

/-- Whether a text that is handed over is a moment. -/
def isHandedMoment : Text → Bool
  | h₁ :: h₂ :: ':' :: rest => afterTime? 24 (h₁ :: h₂ :: ':' :: rest) == some []
  | spelling =>
    match spelling.splitAt 10 with
    | (date, []) => isDate date
    | (date, separator :: time) =>
      isDate date && ['T', 't', ' '].contains separator &&
        match afterTime? 24 time with
        | some rest => isWideOffset rest
        | none => false

end Hygiene.Toml
