/-!
# Time stamps

A moment is a number of milliseconds since the start of 1970 in universal time. In writing it is a
date, a time of day and the milliseconds behind a comma. Dates are those of the Gregorian calendar,
counted in cycles of 400 years from the first of March of the year 0, so that a leap day ends a
year.

* `dayOfCycle_lt`: a day lies in its cycle.
-/
namespace Bearer.Time.Stamp

/-- The days from the first of March of the year 0 to the start of 1970. -/
def epochDays : Int := 719468

/-- The days in a cycle of 400 years. -/
def cycleDays : Int := 146097

/-- A date. -/
structure Date where
  /-- The year. -/
  year : Int
  /-- The month, from 1. -/
  month : Int
  /-- The day of the month, from 1. -/
  day : Int
deriving DecidableEq, Repr

/-- The day of its cycle on which a day falls. -/
def dayOfCycle (days : Int) : Int :=
  (days + epochDays) % cycleDays

theorem dayOfCycle_lt (days : Int) : 0 ≤ dayOfCycle days ∧ dayOfCycle days < cycleDays := by
  unfold dayOfCycle cycleDays
  omega

/-- The date so many days after the start of 1970. -/
def date (days : Int) : Date :=
  let cycle := (days + epochDays) / cycleDays
  let doc := dayOfCycle days
  let yearOfCycle := (doc - doc / 1460 + doc / 36524 - doc / 146096) / 365
  let dayOfYear := doc - (365 * yearOfCycle + yearOfCycle / 4 - yearOfCycle / 100)
  let fromMarch := (5 * dayOfYear + 2) / 153
  let month := if fromMarch < 10 then fromMarch + 3 else fromMarch - 9
  { year := yearOfCycle + cycle * 400 + (if month ≤ 2 then 1 else 0)
    month := month
    day := dayOfYear - (153 * fromMarch + 2) / 5 + 1 }

/-- A number with zeros in front up to a width. -/
def padded (width : Nat) (n : Int) : String :=
  let s := toString n
  String.ofList (List.replicate (width - s.length) '0') ++ s

/-- A moment in writing. -/
def text (millis : Int) : String :=
  let d := date (millis / 86400000)
  let rest := millis % 86400000
  padded 4 d.year ++ "-" ++ padded 2 d.month ++ "-" ++ padded 2 d.day ++ " " ++
    padded 2 (rest / 3600000) ++ ":" ++ padded 2 (rest / 60000 % 60) ++ ":" ++
    padded 2 (rest / 1000 % 60) ++ "," ++ padded 3 (rest % 1000)

end Bearer.Time.Stamp
