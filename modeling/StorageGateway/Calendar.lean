/-!
# Calendar

Modification times are seconds since 1970-01-01 00:00:00 UTC. They are shown as date and time of
the proleptic Gregorian calendar, in which every year counts from 1 March: the leap day is then
the last day of its year, and the lengths of months and years become integer divisions.

## Main definitions

* `DateTime`: a date and a time of day.
* `DateTime.ofSeconds`, `DateTime.toSeconds`: between instants and dates.
* `DateTime.render`: the text of a date, with a sign on years outside four digits.
* `showTime`: the text of an instant, empty outside the supported years.
-/

namespace StorageGateway

/-- A date of the proleptic Gregorian calendar and a time of day, in UTC. -/
structure DateTime where
  year : Int
  month : Nat
  day : Nat
  hour : Nat
  minute : Nat
  second : Nat
  deriving DecidableEq, Repr

namespace DateTime

/-- Days from 0000-03-01 to 1970-01-01. -/
def epochDay : Int := 719468

/-- Year, month and day of the day `z` after 0000-03-01. The eras are spans of 400 years, which
all have the same number of days. -/
def civilOfDay (z : Int) : Int × Nat × Nat :=
  let era := z / 146097
  let dayOfEra := (z % 146097).toNat
  let yearOfEra :=
    (dayOfEra - dayOfEra / 1460 + dayOfEra / 36524 - dayOfEra / 146096) / 365
  let dayOfYear := dayOfEra - (365 * yearOfEra + yearOfEra / 4 - yearOfEra / 100)
  let monthIndex := (5 * dayOfYear + 2) / 153
  let day := dayOfYear - (153 * monthIndex + 2) / 5 + 1
  let month := if monthIndex < 10 then monthIndex + 3 else monthIndex - 9
  (400 * era + yearOfEra + (if month ≤ 2 then 1 else 0), month, day)

/-- The number of days from 0000-03-01 to a date. -/
def dayOfCivil (year : Int) (month day : Nat) : Int :=
  let y := if month ≤ 2 then year - 1 else year
  let era := y / 400
  let yearOfEra := y % 400
  let monthIndex : Int := if month > 2 then (month : Int) - 3 else (month : Int) + 9
  let dayOfYear := (153 * monthIndex + 2) / 5 + (day : Int) - 1
  146097 * era + (365 * yearOfEra + yearOfEra / 4 - yearOfEra / 100 + dayOfYear)

/-- The date and time of an instant. -/
def ofSeconds (t : Int) : DateTime :=
  let c := civilOfDay (t / 86400 + epochDay)
  let s := (t % 86400).toNat
  ⟨c.1, c.2.1, c.2.2, s / 3600, s / 60 % 60, s % 60⟩

/-- The instant of a date and time. -/
def toSeconds (d : DateTime) : Int :=
  86400 * (dayOfCivil d.year d.month d.day - epochDay) +
    (3600 * (d.hour : Int) + 60 * (d.minute : Int) + (d.second : Int))

/-- A number with at least `width` digits, zeros in front. -/
def padded (width n : Nat) : String :=
  let digits := Nat.toDigits 10 n
  String.ofList (List.replicate (width - digits.length) '0' ++ digits)

/-- A year: four digits from 0 to 9999, a sign and at least four digits otherwise. -/
def renderYear (y : Int) : String :=
  if 0 ≤ y ∧ y ≤ 9999 then padded 4 y.toNat
  else (if y < 0 then "-" else "+") ++ padded 4 y.natAbs

/-- The text `year-month-day hour:minute:second`. -/
def render (d : DateTime) : String :=
  renderYear d.year ++ "-" ++ padded 2 d.month ++ "-" ++ padded 2 d.day ++ " " ++
    padded 2 d.hour ++ ":" ++ padded 2 d.minute ++ ":" ++ padded 2 d.second

end DateTime

/-- The text of an instant; empty unless its year lies between -262143 and 262142. -/
def showTime (t : Int) : String :=
  let d := DateTime.ofSeconds t
  if -262143 ≤ d.year ∧ d.year ≤ 262142 then d.render else ""

end StorageGateway
